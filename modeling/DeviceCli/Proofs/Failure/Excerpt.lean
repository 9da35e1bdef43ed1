import DeviceCli.Failure
import DeviceCli.Proofs.Text.Rows
import Mathlib.Data.List.DropRight

/-!
# What a failure shows of a buffer

A failure of the transport tells what had been received, in a frame. A buffer of up to
`Failure.wholeBufferLimit` bytes is shown whole. Of a longer one the last `Failure.tailRows` rows
are shown, with the number of the others.

* `Failure.excerptLines`: the excerpt of a buffer, line by line;
* `Failure.message_of_buffer`: **what is shown is the end of the buffer, and the counts say how many
  rows it has and how many are hidden**; it stays within the limit if and only if the buffer or its
  last rows do;
* `Failure.excerpt_of_row`: rows are never cut, so a buffer of one row is shown whole, however long.
-/

namespace DeviceCli.Failure

open DeviceCli.Text

/-! ## 1. Lines of an excerpt -/

/-- A row behind its bar. -/
def barLine (row : List Char) : String := "│ " ++ String.ofList row

/-- The lines of an excerpt of a buffer, from its size, how many of its rows are hidden, and the
    rows shown. -/
def excerptLines (size hidden : Nat) (shown : List (List Char)) : List String :=
  if size = 0 then ["(empty buffer)"]
  else if size ≤ wholeBufferLimit then
    s!"┌─ buffer ({size} bytes) ──────────────────────" ::
      (shown.map barLine ++ ["└────────────────────────────────────────"])
  else
    s!"┌─ buffer ({size} bytes, {hidden + shown.length} lines) ─────────────" ::
      s!"│ ... ({hidden} lines hidden)" ::
      (shown.map barLine ++ ["└────────────────────────────────────────"])

theorem barred_cons_cons (row next : List Char) (shown : List (List Char)) :
    barred (row :: next :: shown) =
      String.ofList row ++ "\n" ++ ("│ " ++ barred (next :: shown)) := by
  have hseparator : "\n│ " = "\n" ++ "│ " := by decide
  show String.ofList (row ++ "\n│ ".toList ++ joinWith _ (next :: shown)) = _
  rw [String.ofList_append, String.ofList_append, String.ofList_toList, hseparator]
  simp only [String.append_assoc, barred, hseparator]

/-- Each row stands on a line of its own. -/
theorem barred_eq_intercalate {shown : List (List Char)} (hne : shown ≠ []) :
    "│ " ++ barred shown = "\n".intercalate (shown.map barLine) := by
  induction shown with
  | nil => exact absurd rfl hne
  | cons row shown ih =>
    cases shown with
    | nil =>
      rw [List.map_singleton, String.intercalate_singleton]
      rfl
    | cons next shown =>
      rw [barred_cons_cons, ih (List.cons_ne_nil _ _)]
      simp only [List.map_cons, String.intercalate_cons_cons, barLine, String.append_assoc]

/-- Lines above rows, and one below. -/
theorem intercalate_framed {shown : List (List Char)} (hne : shown ≠ [])
    (above below : String) :
    "\n".intercalate (above :: (shown.map barLine ++ [below])) =
      above ++ "\n" ++ ("│ " ++ barred shown ++ ("\n" ++ below)) := by
  have hlines : shown.map barLine ≠ [] := by simpa using hne
  rw [String.intercalate_cons_of_ne_nil (by simp), barred_eq_intercalate hne,
    String.intercalate_append_of_ne_nil hlines (List.cons_ne_nil _ _),
    String.intercalate_singleton]
  simp only [String.append_assoc]

/-! ## 2. What is shown -/

/-- The rows of a buffer, taken apart into those in front, which are hidden, and those that are
    shown. -/
structure Parted (buffer : String) (hidden shown : List (List Char)) : Prop where
  eq_append : rows buffer.toList = hidden ++ shown
  /-- a short buffer is shown whole -/
  whole : buffer.utf8ByteSize ≤ wholeBufferLimit → hidden = []
  /-- of a longer one the last rows are shown -/
  last : wholeBufferLimit < buffer.utf8ByteSize →
    shown.length = min tailRows (hidden.length + shown.length)

theorem exists_parted (buffer : String) : ∃ hidden shown, Parted buffer hidden shown := by
  by_cases hsize : buffer.utf8ByteSize ≤ wholeBufferLimit
  · exact ⟨[], rows buffer.toList, rfl, fun _ => rfl, fun h => absurd hsize (Nat.not_le.mpr h)⟩
  · refine ⟨_, _, (List.take_append_drop ((rows buffer.toList).length - tailRows) _).symm,
      fun h => absurd h hsize, fun _ => ?_⟩
    rw [List.length_take, List.length_drop]
    omega

namespace Parted

variable {buffer : String} {hidden shown : List (List Char)} (h : Parted buffer hidden shown)
include h

theorem shown_ne_nil (hne : buffer.utf8ByteSize ≠ 0) : shown ≠ [] := by
  rintro rfl
  have hrows : rows buffer.toList = [] := by
    by_cases hsize : buffer.utf8ByteSize ≤ wholeBufferLimit
    · rw [h.eq_append, h.whole hsize, List.append_nil]
    · have hlength := h.last (Nat.not_le.mp hsize)
      rw [tailRows, List.length_nil] at hlength
      rw [h.eq_append, List.append_nil, ← List.length_eq_zero_iff]
      omega
  rw [rows_eq_nil_iff, String.toList_eq_nil_iff] at hrows
  exact hne (hrows ▸ rfl)

theorem length_sub (hsize : wholeBufferLimit < buffer.utf8ByteSize) :
    hidden.length + shown.length - tailRows = hidden.length := by
  have hlength := h.last hsize
  omega

/-- **The excerpt of a buffer, line by line.** -/
theorem excerpt_eq : excerpt buffer =
    "\n".intercalate (excerptLines buffer.utf8ByteSize hidden.length shown) := by
  by_cases hempty : buffer.utf8ByteSize = 0
  · simp only [excerpt, excerptLines, hempty, if_true, String.intercalate_singleton]
  have hframed := intercalate_framed (h.shown_ne_nil hempty)
  have hbelow : "\n└────────────────────────────────────────" =
    "\n" ++ "└────────────────────────────────────────" := by decide +kernel
  by_cases hsize : buffer.utf8ByteSize ≤ wholeBufferLimit
  · have habove : " bytes) ──────────────────────\n│ " =
      " bytes) ──────────────────────" ++ ("\n" ++ "│ ") := by decide +kernel
    have hshown : rows buffer.toList = shown := by rw [h.eq_append, h.whole hsize, List.nil_append]
    simp only [excerpt, excerptLines, hempty, hsize, if_true, if_false, hshown, hframed, toString,
      habove, hbelow, String.append_assoc]
  · have habove : " lines) ─────────────\n│ ... (" =
      " lines) ─────────────" ++ ("\n" ++ "│ ... (") := by decide +kernel
    have hnote : " lines hidden)\n│ " = " lines hidden)" ++ ("\n" ++ "│ ") := by decide
    have hhidden := h.length_sub (Nat.not_le.mp hsize)
    simp only [excerpt, excerptLines, hempty, hsize, if_false, h.eq_append, List.length_append,
      hhidden, List.drop_left, Nat.add_sub_cancel,
      String.intercalate_cons_of_ne_nil (List.cons_ne_nil _ _), hframed, toString, habove, hnote,
      hbelow, String.append_assoc]

/-- Within the limit stays what is shown of a buffer if the buffer does, or its last rows do. -/
theorem byteCount_flatten_le_iff :
    byteCount shown.flatten ≤ wholeBufferLimit ↔
      buffer.utf8ByteSize ≤ wholeBufferLimit ∨
        byteCount ((rows buffer.toList).rtake tailRows).flatten ≤ wholeBufferLimit := by
  by_cases hsize : buffer.utf8ByteSize ≤ wholeBufferLimit
  · refine iff_of_true ?_ (.inl hsize)
    have hbytes := byteCount_flatten_rows buffer.toList
    have hbuffer : byteCount buffer.toList = buffer.utf8ByteSize := by
      rw [byteCount, String.ofList_toList]
    rw [h.eq_append, h.whole hsize, List.nil_append, hbuffer] at hbytes
    exact hbytes.trans hsize
  · have hlast : (rows buffer.toList).rtake tailRows = shown := by
      rw [List.rtake, h.eq_append, List.length_append, h.length_sub (Nat.not_le.mp hsize),
        List.drop_left]
    rw [hlast, or_iff_right hsize]

end Parted

/-- **What a failure of the transport shows of a buffer** is the end of it.

    * The rows of the buffer are some hidden ones and the shown ones behind them, and so is the
      buffer itself a part in front and a part at its end.
    * The text has the lines of the excerpt, which count all rows and the hidden ones.
    * Of a buffer within the limit nothing is hidden; of a longer one the last rows are shown.
    * What is shown is within the limit if and only if the buffer or its last rows are. -/
theorem message_of_buffer (context text buffer : String) :
    ∃ hidden shown : List (List Char),
      rows buffer.toList = hidden ++ shown ∧
      (∃ front back, buffer.toList = front ++ back ∧ rows front = hidden ∧ rows back = shown) ∧
      message (.transport context text (some buffer)) = context ++ ": " ++ text ++ "\n\n" ++
        "\n".intercalate (excerptLines buffer.utf8ByteSize hidden.length shown) ∧
      (buffer.utf8ByteSize ≤ wholeBufferLimit → hidden = []) ∧
      (wholeBufferLimit < buffer.utf8ByteSize →
        shown.length = min tailRows (hidden.length + shown.length)) ∧
      (byteCount shown.flatten ≤ wholeBufferLimit ↔
        buffer.utf8ByteSize ≤ wholeBufferLimit ∨
          byteCount ((rows buffer.toList).rtake tailRows).flatten ≤ wholeBufferLimit) := by
  obtain ⟨hidden, shown, h⟩ := exists_parted buffer
  refine ⟨hidden, shown, h.eq_append, exists_rows_append h.eq_append, ?_, h.whole, h.last,
    h.byteCount_flatten_le_iff⟩
  have hmessage : message (.transport context text (some buffer)) =
      s!"{context}: {text}\n\n{excerpt buffer}" := rfl
  rw [hmessage, h.excerpt_eq]
  simp only [toString, String.append_assoc]

/-- **A row is shown whole, however long it is.** -/
theorem excerpt_of_row {buffer : String} (hrow : ∀ c ∈ buffer.toList, c ≠ '\n')
    (hsize : wholeBufferLimit < buffer.utf8ByteSize) :
    ∃ above below, excerpt buffer = above ++ buffer ++ below := by
  have hempty : buffer.utf8ByteSize ≠ 0 := Nat.ne_of_gt (Nat.zero_lt_of_lt hsize)
  have hne : buffer.toList ≠ [] := fun h => hempty (String.toList_eq_nil_iff.mp h ▸ rfl)
  have hparted : Parted buffer [] [buffer.toList] :=
    ⟨rows_of_plain hrow hne, fun _ => rfl, fun _ => rfl⟩
  have hexcerpt := hparted.excerpt_eq
  have hbarred : barred [buffer.toList] = buffer := String.ofList_toList
  have hassoc (a b c d : String) :
      a ++ (b ++ (c ++ buffer ++ d)) = a ++ (b ++ c) ++ buffer ++ d := by
    simp only [String.append_assoc]
  rw [hexcerpt, excerptLines, if_neg hempty, if_neg (Nat.not_le.mpr hsize),
    String.intercalate_cons_of_ne_nil (List.cons_ne_nil _ _),
    intercalate_framed (List.cons_ne_nil _ _), hbarred]
  exact ⟨_, _, hassoc _ _ _ _⟩

/-- A row of 501 bytes, which is more than the limit, and a text that shows all of them. -/
theorem shows_long_row :
    let buffer := String.ofList (List.replicate 501 'x')
    wholeBufferLimit < buffer.utf8ByteSize ∧ ∃ above below,
      message (.transport "reading" "closed" (some buffer)) = above ++ buffer ++ below := by
  intro buffer
  have hsize : wholeBufferLimit < buffer.utf8ByteSize := by decide +kernel
  have hrow : ∀ c ∈ buffer.toList, c ≠ '\n' := fun c hc => by
    rw [String.toList_ofList] at hc
    rw [List.eq_of_mem_replicate hc]
    decide
  obtain ⟨above, below, hexcerpt⟩ := excerpt_of_row hrow hsize
  have hmessage : message (.transport "reading" "closed" (some buffer)) =
      "reading: closed\n\n" ++ excerpt buffer := rfl
  refine ⟨hsize, "reading: closed\n\n" ++ above, below, ?_⟩
  rw [hmessage, hexcerpt]
  simp only [String.append_assoc]

end DeviceCli.Failure
