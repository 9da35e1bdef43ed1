import DeviceCli.Proofs.Mode.RoundTrip

/-!
# Ways to build a registry

A registry comes from a map of modes, from a builder that is given one mode after the other, from a
document of modes, or from a profile. All of them check the modes in the end, and nothing but the
map of the modes decides what they come to.

* `Registry.exists_ofModes_iff`: the modes that make a registry are the sound ones;
* `RegistryBuilder.modes_foldl` and `modesOfJson_namedModes`: a builder and a document that are given
  one mode after the other come to the map of them, in which the last of equal names counts;
* `Registry.toOption_parse` and `Profile.toOption_parse`: a document is accepted if its modes are;
* `Registry.built_alike`: **the ways agree**, on what they accept and on what they make of it.
-/

namespace DeviceCli

open DeviceCli.Json

/-- A builder that is given modes one after the other collects the map of them. -/
theorem RegistryBuilder.modes_foldl (named : List (String × Mode)) (b : RegistryBuilder) :
    (named.foldl (fun b e => b.mode e.1 e.2) b).modes =
      named.foldl (fun m e => m.insert e.1 e.2) b.modes := by
  induction named generalizing b with
  | nil => rfl
  | cons e named ih => exact ih (b.mode e.1 e.2)

/-! ## 1. Documents -/

/-- A document that says modes one after the other. -/
def namedModes (named : List (String × Mode)) : Json :=
  .object (named.map fun e => (e.1, e.2.toJson))

/-- A profile that says modes one after the other, and leaves the settings out. -/
def namedProfile (named : List (String × Mode)) : Json := .object [("modes", namedModes named)]

section Named

variable {named : List (String × Mode)} (h : ∀ e ∈ named, e.2.Formed)
include h

theorem modesOfJson_namedModes (d : Dialect) :
    modesOfJson d (namedModes named) = .ok (Keyed.ofList named) := by
  have hread : readEntries (Mode.ofJson d) (named.map fun e => (e.1, e.2.toJson)) = .ok named :=
    readEntries_map fun e he => Mode.ofJson_toJson d (h e he)
  rw [modesOfJson, namedModes, asKeyed, hread]
  rfl

theorem partsOfJson_namedProfile (d : Dialect) :
    Profile.partsOfJson d (namedProfile named) = .ok ({}, Keyed.ofList named) := by
  have hrow : ∃ row, record d true ["engine", "modes"] (namedProfile named) = .ok row ∧
      row "engine" = none ∧ row "modes" = some (namedModes named) :=
    ⟨_, record_object (by decide) (.cons _ (.refl _)), rfl, rfl⟩
  obtain ⟨row, hrow, hengine, hmember⟩ := hrow
  rw [Profile.partsOfJson, hrow]
  simp only [bind, Except.bind, withDefault, hengine, required_of_some hmember,
    modesOfJson_namedModes h d]
  rfl

theorem plain_namedModes (depth : Nat) : Plain (depth + 5) (namedModes named) := by
  refine .object fun member hmember => ?_
  obtain ⟨e, he, rfl⟩ := List.mem_map.mp hmember
  exact Mode.plain_toJson (h e he)

theorem plain_namedProfile (depth : Nat) : Plain (depth + 6) (namedProfile named) := by
  refine .object fun member hmember => ?_
  obtain rfl := List.mem_singleton.mp hmember
  exact plain_namedModes h depth

end Named

/-! ## 2. What documents come to -/

/-- The modes that a document says, before they are checked. -/
def modesIn (format : Format) (document : String) : Except Failure (Keyed Mode) := do
  let j ← format.read document
  (modesOfJson format.dialect j).mapError format.mismatch

/-- The settings and the modes that a profile says, before the modes are checked. -/
def Profile.partsIn (format : Format) (document : String) :
    Except Failure (Engine × Keyed Mode) := do
  let j ← format.read document
  (Profile.partsOfJson format.dialect j).mapError format.mismatch

theorem read_compact {j : Json} (h : Plain nestLimit j) : Format.read .json j.compact = .ok j := by
  rw [Format.read, parse?_compact h]

section Parts

variable {format : Format} {document : String} {modes : Keyed Mode}

/-- A document of modes is accepted if its modes are, and says the registry that they make. -/
theorem Registry.toOption_parse (h : modesIn format document = .ok modes) :
    (Registry.parse format document).toOption = (Registry.ofModes modes).toOption := by
  rw [modesIn] at h
  rw [Registry.parse]
  cases hread : format.read document with
  | error f => rw [hread] at h; cases h
  | ok j =>
    rw [hread] at h
    change (modesOfJson format.dialect j).mapError format.mismatch = .ok modes at h
    cases hmodes : modesOfJson format.dialect j with
    | error m => rw [hmodes] at h; cases h
    | ok read =>
      rw [hmodes] at h
      cases h
      change ((Registry.ofJson format.dialect j).mapError format.mismatch).toOption = _
      cases hregistry : Registry.ofModes modes with
      | error e =>
        simp only [Registry.ofJson, hmodes, bind, Except.bind, hregistry]
        rfl
      | ok registry =>
        simp only [Registry.ofJson, hmodes, bind, Except.bind, hregistry]
        rfl

/-- A profile is accepted if its modes are, and has the registry that they make. -/
theorem Profile.toOption_parse {engine : Engine}
    (h : Profile.partsIn format document = .ok (engine, modes)) :
    (Profile.parse format document).toOption =
      (Registry.ofModes modes).toOption.map fun r => ⟨engine, r⟩ := by
  rw [partsIn] at h
  rw [Profile.parse]
  cases hread : format.read document with
  | error f => rw [hread] at h; cases h
  | ok j =>
    rw [hread] at h
    change (partsOfJson format.dialect j).mapError format.mismatch = .ok (engine, modes) at h
    simp only [bind, Except.bind, h]
    cases Registry.ofModes modes <;> rfl

end Parts

/-! ## 3. The ways agree -/

namespace Registry

/-- **The modes that make a registry are the sound ones.** -/
theorem exists_ofModes_iff (modes : Keyed Mode) :
    (∃ r, ofModes modes = .ok r) ↔ SoundModes modes := by
  constructor
  · rintro ⟨r, hr⟩
    have hmodes : r.modes = modes := modes_of_ofModes hr
    exact hmodes ▸ r.sound
  · intro h
    have hvalid : validateModes modes = .ok () := (validateModes_eq_ok_iff modes).mpr h
    exact ⟨⟨modes, hvalid⟩, ofModes_modes ⟨modes, hvalid⟩⟩

/-- **All ways to a registry agree.** Modes make a registry if and only if they are sound, and it has
    those modes. A list that says them, of equal names the last, comes to the same registry or fault
    given at once or mode by mode, and so does any document of them, be it of the modes alone or a
    profile; one that is written from such a list is a document of them. -/
theorem built_alike (modes : Keyed Mode) :
    ((∃ r, ofModes modes = .ok r) ↔ SoundModes modes) ∧
    (∀ r, ofModes modes = .ok r → r.modes = modes) ∧
    (∀ named : List (String × Mode), (∀ name, modes.get? name = named.reverse.lookup name) →
      ofList named = ofModes modes ∧
      (named.foldl (fun b e => b.mode e.1 e.2) ({} : RegistryBuilder)).build = ofModes modes ∧
      ((∀ e ∈ named, e.2.Formed) →
        modesIn .json (namedModes named).compact = .ok modes ∧
        Profile.partsIn .json (namedProfile named).compact = .ok ({}, modes))) ∧
    (∀ format document, modesIn format document = .ok modes →
      (parse format document).toOption = (ofModes modes).toOption) ∧
    ∀ format document engine, Profile.partsIn format document = .ok (engine, modes) →
      (Profile.parse format document).toOption =
        (ofModes modes).toOption.map fun r => ⟨engine, r⟩ := by
  refine ⟨exists_ofModes_iff modes, fun r => modes_of_ofModes, fun named hnamed => ?_,
    fun format document h => toOption_parse h, fun format document engine h =>
      Profile.toOption_parse h⟩
  have hmodes : Keyed.ofList named = modes := Keyed.ofList_eq_of_lookup hnamed
  refine ⟨congrArg ofModes hmodes, ?_, fun hformed => ⟨?_, ?_⟩⟩
  · rw [RegistryBuilder.build, RegistryBuilder.modes_foldl]
    exact congrArg ofModes hmodes
  · have hplain : Plain nestLimit (namedModes named) := plain_namedModes hformed 122
    rw [modesIn, read_compact hplain, ← hmodes]
    exact congrArg (Except.mapError _) (modesOfJson_namedModes hformed .json)
  · have hplain : Plain nestLimit (namedProfile named) := plain_namedProfile hformed 121
    rw [Profile.partsIn, read_compact hplain, ← hmodes]
    exact congrArg (Except.mapError _) (partsOfJson_namedProfile hformed .json)

/-- Of two modes of one name the first has a macro that leads nowhere; only the second counts, in
    the hands of a builder, in a document and in a profile. -/
theorem built_alike_repeated :
    let lost : Mode :=
      { prompt := .literal ">", macros := .ofList [("go", { options := ["nowhere"] })] }
    let named : List (String × Mode) := [("exec", lost), ("exec", { prompt := .literal ">" })]
    (∀ e ∈ named, e.2.Formed) ∧ ∃ r : Registry,
      r.modes.entries = [("exec", { prompt := .literal ">" })] ∧
      ((({} : RegistryBuilder).mode "exec" lost).mode "exec" { prompt := .literal ">" }).build =
        .ok r ∧
      (parse .json (namedModes named).compact).toOption = some r ∧
      (Profile.parse .json (namedProfile named).compact).toOption = some ⟨{}, r⟩ := by
  intro lost named
  have hprompt : (Pattern.literal ">").Compiled := Pattern.compiled_literal (by decide +kernel)
  have hformed : ∀ e ∈ named, e.2.Formed := by
    intro e he
    rcases List.mem_cons.mp he with rfl | he
    · refine ⟨hprompt, nofun, nofun, fun e he => ?_⟩
      obtain rfl := List.mem_singleton.mp he
      exact ⟨nofun, nofun, nofun⟩
    · obtain rfl := List.mem_singleton.mp he
      exact ⟨hprompt, nofun, nofun, nofun⟩
  let modes : Keyed Mode :=
    ⟨[("exec", { prompt := .literal ">" })], List.pairwise_singleton _ _⟩
  have hnamed : ∀ name, modes.get? name = named.reverse.lookup name := by
    intro name
    cases h : name == "exec" <;> simp [modes, named, Keyed.get?, List.lookup_cons, h]
  have hvalid : validateModes modes = .ok () := rfl
  have hmodes : ofModes modes = .ok ⟨modes, hvalid⟩ := ofModes_modes ⟨modes, hvalid⟩
  obtain ⟨-, -, hlist, hdocument, hprofile⟩ := built_alike modes
  obtain ⟨-, hbuilder, htexts⟩ := hlist named hnamed
  obtain ⟨htext, hprofileText⟩ := htexts hformed
  refine ⟨hformed, ⟨modes, hvalid⟩, rfl, hbuilder.trans hmodes, ?_, ?_⟩
  · rw [hdocument .json _ htext, hmodes]
    rfl
  · rw [hprofile .json _ _ hprofileText, hmodes]
    rfl

end Registry

end DeviceCli
