import Descent.Diagnostic
import Descent.Proofs.Text.Boundary

/-!
# The caret stands under the character

A diagnostic shows its text in one line and a caret in the next, and the column of the caret is the
number of characters that begin before the offset (`column_eq`). That number is strictly greater
for a greater boundary (`charsBefore_inj`), so what is shown also says which boundary the offset was
brought back to, and nothing but that.
-/

namespace Descent

namespace Text

/-- The offsets at which a character begins, counted from `start`. -/
def startsFrom (start : Nat) : List Char → List Nat
  | [] => []
  | c :: cs => start :: startsFrom (start + c.utf8Size) cs

/-- How many characters of a text begin before an offset. -/
def charsBefore (text : List Char) (offset : Nat) : Nat :=
  (startsFrom 0 text).countP (· < offset)

/-- The characters of the second part begin where the first part ends. -/
theorem startsFrom_append (start : Nat) (before after : List Char) :
    startsFrom start (before ++ after) =
      startsFrom start before ++ startsFrom (start + byteLength before) after := by
  induction before generalizing start with
  | nil => rfl
  | cons c before ih =>
    rw [List.cons_append, startsFrom, ih, startsFrom, byteLength_cons, Nat.add_assoc,
      List.cons_append]

/-- Each character begins once. -/
theorem length_startsFrom (start : Nat) (cs : List Char) :
    (startsFrom start cs).length = cs.length := by
  induction cs generalizing start with
  | nil => rfl
  | cons c cs ih => rw [startsFrom, List.length_cons, ih, List.length_cons]

/-- No character begins before the text. -/
theorem le_of_mem_startsFrom {p start : Nat} {cs : List Char} (h : p ∈ startsFrom start cs) :
    start ≤ p := by
  induction cs generalizing start with
  | nil => cases h
  | cons c cs ih =>
    obtain rfl | h := List.mem_cons.1 h
    · exact Nat.le_refl p
    · exact Nat.le_trans (Nat.le_add_right _ _) (ih h)

/-- No character begins behind the text. -/
theorem lt_of_mem_startsFrom {p start : Nat} {cs : List Char} (h : p ∈ startsFrom start cs) :
    p < start + byteLength cs := by
  induction cs generalizing start with
  | nil => cases h
  | cons c cs ih =>
    have hpos := c.utf8Size_pos
    rw [byteLength_cons]
    obtain rfl | h := List.mem_cons.1 h
    · omega
    · have := ih h
      omega

/-- Before a boundary begin the characters that stand before it. -/
theorem charsBefore_append_byteLength (before after : List Char) :
    charsBefore (before ++ after) (byteLength before) = before.length := by
  have hbefore : (startsFrom 0 before).countP (· < byteLength before) =
      (startsFrom 0 before).length := by
    refine List.countP_eq_length.2 fun p hp => decide_eq_true ?_
    have := lt_of_mem_startsFrom hp
    omega
  have hafter : (startsFrom (0 + byteLength before) after).countP (· < byteLength before) = 0 := by
    refine List.countP_eq_zero.2 fun p hp => ?_
    have := le_of_mem_startsFrom hp
    simp only [decide_eq_true_eq]
    omega
  rw [charsBefore, startsFrom_append, List.countP_append, hbefore, hafter, length_startsFrom,
    Nat.add_zero]

/-- The column of a boundary is the number of characters that begin before it. -/
theorem column?_eq_charsBefore {cs : List Char} {p : Nat} (h : p ∈ boundaries cs) :
    column? cs p = some (charsBefore cs p) := by
  obtain ⟨before, after, rfl, rfl⟩ := mem_boundaries_iff.1 h
  rw [column?_append_byteLength, charsBefore_append_byteLength]

/-- Before different boundaries begin different numbers of characters. -/
theorem charsBefore_inj {cs : List Char} {p q : Nat} (hp : p ∈ boundaries cs)
    (hq : q ∈ boundaries cs) : charsBefore cs p = charsBefore cs q ↔ p = q := by
  refine ⟨fun h => ?_, congrArg _⟩
  obtain ⟨before, after, rfl, rfl⟩ := mem_boundaries_iff.1 hp
  obtain ⟨before', after', happ, rfl⟩ := mem_boundaries_iff.1 hq
  rw [charsBefore_append_byteLength, happ, charsBefore_append_byteLength] at h
  rw [(List.append_inj happ h).1]

end Text

namespace Diagnostic

/-- The diagnostic that a stage makes. -/
def of : Stage → (message source : String) → (offset : Nat) → Diagnostic
  | .lexical => lexical
  | .grammatical => grammatical

theorem of_eq (stage : Stage) (message source : String) (offset : Nat) :
    of stage message source offset =
      ⟨stage, message, source, Text.clamp source.toList offset⟩ := by
  cases stage <;> rfl

variable {d e : Diagnostic}

theorem column_eq (h : d.offset ∈ Text.boundaries d.source.toList) :
    d.column = Text.charsBefore d.source.toList d.offset := by
  rw [column, Text.column?_eq_charsBefore h, Option.getD_some]

theorem caret_eq (h : d.offset ∈ Text.boundaries d.source.toList) :
    d.caret = d.message ++ ":\n\n    " ++ d.source ++ "\n    " ++
      String.ofList (List.replicate (Text.charsBefore d.source.toList d.offset) ' ') ++
        "^\n\n" := by
  rw [caret, column_eq h]

/-- Two diagnostics that say the same of the same text look the same if their carets stand in the
same column. -/
theorem caret_inj (hmessage : d.message = e.message) (hsource : d.source = e.source) :
    d.caret = e.caret ↔ d.column = e.column := by
  refine ⟨fun h => ?_, fun h => by rw [caret, caret, hmessage, hsource, h]⟩
  have hlength := congrArg String.length h
  simp only [caret, hmessage, hsource, String.length_append, String.length_ofList,
    List.length_replicate] at hlength
  omega

/-- The line of the text, where it is shown. -/
def textLine (d : Diagnostic) : List Char := "    ".toList ++ d.source.toList

/-- The line of the caret. -/
def caretLine (d : Diagnostic) : List Char := "    ".toList ++ List.replicate d.column ' ' ++ ['^']

theorem toList_caret (d : Diagnostic) :
    d.caret.toList =
      (d.message ++ ":\n\n").toList ++ d.textLine ++ '\n' :: d.caretLine ++ ['\n', '\n'] := by
  simp [caret, textLine, caretLine]

theorem lineFeed_mem_textLine_iff : '\n' ∈ d.textLine ↔ '\n' ∈ d.source.toList := by
  simp [textLine]

theorem lineFeed_not_mem_caretLine (d : Diagnostic) : '\n' ∉ d.caretLine := by
  simp [caretLine]

/-- The caret comes behind the four spaces and its column. -/
theorem getElem?_caretLine (d : Diagnostic) : d.caretLine[4 + d.column]? = some '^' := by
  have hlength : ("    ".toList ++ List.replicate d.column ' ').length = 4 + d.column := by
    rw [List.length_append, List.length_replicate]
    rfl
  rw [caretLine, List.getElem?_append_right (Nat.le_of_eq hlength), hlength, Nat.sub_self]
  rfl

/-- Over the caret stands what follows on as many characters as it has columns. -/
theorem getElem?_textLine {before after : List Char} (hsource : d.source.toList = before ++ after) :
    d.textLine[4 + before.length]? = after.head? := by
  have hfour : "    ".toList.length = 4 := rfl
  rw [textLine, hsource, List.getElem?_append_right (by omega), hfour, Nat.add_sub_cancel_left,
    List.getElem?_append_right (Nat.le_refl _), Nat.sub_self, List.head?_eq_getElem?]

/-- **The caret stands under the character at the offset, and tells the offset.** Whatever is said
of whatever text, and whatever offset it is about: the caret comes behind as many spaces as
characters of the text begin before the offset that was kept, which is the greatest boundary not
behind the given one. There is a column for it, without falling back on the offset, and it is no
greater than the number of characters. If the text has no line feed then the caret stands in the
line below it, and above the caret stands the character that begins at the offset, or nothing any
more if the text ends there. Another offset looks the same if and only if it is brought back to the
same boundary. -/
theorem caret_marks_offset (stage : Stage) (message source : String) (offset : Nat) :
    let d := of stage message source offset
    let n := Text.charsBefore source.toList d.offset
    d.caret = message ++ ":\n\n    " ++ source ++ "\n    " ++
        String.ofList (List.replicate n ' ') ++ "^\n\n" ∧
      IsGreatest {b | b ∈ Text.boundaries source.toList ∧ b ≤ offset} d.offset ∧
      n ≤ source.length ∧
      Text.column? source.toList d.offset = some n ∧
      (d.caret.toList = (message ++ ":\n\n").toList ++ d.textLine ++
          '\n' :: d.caretLine ++ ['\n', '\n'] ∧
        ('\n' ∈ d.textLine ↔ '\n' ∈ source.toList) ∧ '\n' ∉ d.caretLine ∧
        ∃ before after, source.toList = before ++ after ∧ Text.byteLength before = d.offset ∧
          d.caretLine[4 + n]? = some '^' ∧ d.textLine[4 + n]? = after.head?) ∧
      ∀ other, (of stage message source other).caret = d.caret ↔
        (of stage message source other).offset = d.offset := by
  simp only [of_eq]
  have hmem := Text.clamp_mem_boundaries source.toList
  have hcolumn (e : Nat) : column ⟨stage, message, source, Text.clamp source.toList e⟩ =
      Text.charsBefore source.toList (Text.clamp source.toList e) := column_eq (hmem e)
  obtain ⟨before, after, hsplit, hoffset⟩ := Text.mem_boundaries_iff.1 (hmem offset)
  have hn : Text.charsBefore source.toList (Text.clamp source.toList offset) = before.length := by
    rw [← hoffset, hsplit, Text.charsBefore_append_byteLength]
  refine ⟨caret_eq (hmem offset), Text.isGreatest_clamp _ _, ?_,
    Text.column?_eq_charsBefore (hmem offset), ⟨toList_caret _, lineFeed_mem_textLine_iff,
      lineFeed_not_mem_caretLine _, before, after, hsplit, hoffset, ?_, ?_⟩, fun other => ?_⟩
  · rw [hn, ← String.length_toList, hsplit, List.length_append]
    exact Nat.le_add_right _ _
  · rw [← hcolumn offset]
    exact getElem?_caretLine _
  · rw [hn]
    exact getElem?_textLine hsplit
  · rw [caret_inj, hcolumn, hcolumn]
    · exact Text.charsBefore_inj (hmem other) (hmem offset)
    · rfl
    · rfl

end Diagnostic

end Descent
