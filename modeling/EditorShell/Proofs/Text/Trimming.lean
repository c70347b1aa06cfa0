import EditorShell.Text.Blank
import Mathlib.Data.List.TakeWhile

/-!
# Trimmed texts

A text is trimmed when neither its first nor its last character is blank.  Trimming yields such a
text, and leaves one alone; so what is trimmed once needs no further trimming, and a text put
together from trimmed parts is trimmed as well.
-/

namespace EditorShell.Text

/-- No blank stands at the start or at the end. -/
def Trimmed (text : List Char) : Prop :=
  (∀ c ∈ text.head?, isBlank c = false) ∧ ∀ c ∈ text.getLast?, isBlank c = false

instance (text : List Char) : Decidable (Trimmed text) :=
  decidable_of_iff (text.head?.all (fun c => !isBlank c) ∧ text.getLast?.all fun c => !isBlank c)
    (by simp [Trimmed, Option.all_eq_true])

private theorem head_dropWhile_isBlank (text : List Char) :
    ∀ c ∈ (text.dropWhile isBlank).head?, isBlank c = false := by
  intro c hc
  have hnot := List.head?_dropWhile_not isBlank text
  rw [Option.mem_def.1 hc] at hnot
  simpa using hnot

private theorem dropWhile_isBlank_eq_self {text : List Char}
    (hhead : ∀ c ∈ text.head?, isBlank c = false) : text.dropWhile isBlank = text := by
  cases text with
  | nil => rfl
  | cons c rest => exact List.dropWhile_cons_of_neg (by simpa using hhead c rfl)

theorem trimmed_trim (text : List Char) : Trimmed (trim text) := by
  constructor
  · -- The end is taken off a text whose start is clean already.
    intro c hc
    have hsuffix : ((trimStart text).reverse.dropWhile isBlank) <:+ (trimStart text).reverse :=
      List.dropWhile_suffix isBlank
    obtain ⟨ending, hending⟩ := hsuffix
    have hstart : trimStart text = trim text ++ ending.reverse := by
      rw [← List.reverse_inj, ← hending]
      simp [trim, trimEnd]
    refine head_dropWhile_isBlank text c ?_
    rw [show text.dropWhile isBlank = trimStart text from rfl, hstart]
    cases htrim : trim text with
    | nil => simp [htrim] at hc
    | cons first rest => simpa [htrim] using hc
  · intro c hc
    rw [trim, trimEnd, List.getLast?_reverse] at hc
    exact head_dropWhile_isBlank _ c hc

theorem mem_of_mem_trim {text : List Char} {c : Char} (hc : c ∈ trim text) : c ∈ text := by
  have hstart : c ∈ trimStart text := by
    rw [trim, trimEnd, List.mem_reverse] at hc
    exact List.mem_reverse.1 ((List.dropWhile_suffix isBlank).subset hc)
  exact (List.dropWhile_suffix isBlank).subset hstart

theorem trim_eq_self {text : List Char} (htrimmed : Trimmed text) : trim text = text := by
  have hstart : trimStart text = text := dropWhile_isBlank_eq_self htrimmed.1
  have hend : text.reverse.dropWhile isBlank = text.reverse := by
    refine dropWhile_isBlank_eq_self fun c hc => htrimmed.2 c ?_
    rwa [List.head?_reverse] at hc
  rw [trim, trimEnd, hstart, hend, List.reverse_reverse]

theorem trim_eq_self_iff {text : List Char} : trim text = text ↔ Trimmed text := by
  constructor
  · intro htrim
    rw [← htrim]
    exact trimmed_trim text
  · exact trim_eq_self

/-- Nothing is left only of a blank text. -/
theorem isBlank_of_trim_eq_nil {text : List Char} (htrim : trim text = []) {c : Char}
    (hc : c ∈ text) : isBlank c = true := by
  have hend : ∀ d ∈ trimStart text, isBlank d = true := by
    rw [trim, trimEnd, List.reverse_eq_nil_iff, List.dropWhile_eq_nil_iff] at htrim
    intro d hd
    exact htrim d (List.mem_reverse.2 hd)
  have hstart : trimStart text = [] := by
    cases htext : trimStart text with
    | nil => rfl
    | cons d rest =>
        have hblank : isBlank d = true := hend d (by simp [htext])
        have hnot : isBlank d = false := head_dropWhile_isBlank text d (by
          rw [show text.dropWhile isBlank = d :: rest from htext]
          rfl)
        rw [hblank] at hnot
        cases hnot
  exact List.dropWhile_eq_nil_iff.1 hstart c hc

/-- The text is `core` with blanks around it. -/
def Padded (core text : List Char) : Prop :=
  ∃ before after, text = before ++ core ++ after ∧ ∀ c ∈ before ++ after, isBlank c = true

/-- Trimming takes exactly the blanks away that stand around a text. -/
theorem trim_eq_iff {text core : List Char} :
    trim text = core ↔ Trimmed core ∧ Padded core text := by
  constructor
  · rintro rfl
    refine ⟨trimmed_trim text, text.takeWhile isBlank,
      ((trimStart text).reverse.takeWhile isBlank).reverse, ?_, ?_⟩
    · have hstart : trimStart text =
          trim text ++ ((trimStart text).reverse.takeWhile isBlank).reverse := by
        rw [trim, trimEnd, ← List.reverse_append, List.takeWhile_append_dropWhile,
          List.reverse_reverse]
      rw [List.append_assoc, ← hstart]
      exact List.takeWhile_append_dropWhile.symm
    · intro c hc
      rw [List.mem_append, List.mem_reverse] at hc
      rcases hc with hc | hc <;> exact List.mem_takeWhile_imp hc
  · rintro ⟨htrimmed, before, after, rfl, hblank⟩
    have hbefore : ∀ c ∈ before, isBlank c = true := fun c hc =>
      hblank c (List.mem_append_left after hc)
    have hafter : ∀ c ∈ after.reverse, isBlank c = true := fun c hc =>
      hblank c (List.mem_append_right before (List.mem_reverse.1 hc))
    rw [List.append_assoc, trim, trimStart, List.dropWhile_append_of_pos hbefore]
    -- All blank, the text is used up from the front; else the core stops the trimming at both ends.
    rcases core with _ | ⟨c, rest⟩
    · have hnone : after.dropWhile isBlank = [] :=
        List.dropWhile_eq_nil_iff.2 fun c hc => hafter c (List.mem_reverse.2 hc)
      rw [List.nil_append, hnone]
      rfl
    · rw [List.cons_append, dropWhile_isBlank_eq_self (by simpa using htrimmed.1), trimEnd,
        ← List.cons_append, List.reverse_append, List.dropWhile_append_of_pos hafter]
      rw [dropWhile_isBlank_eq_self, List.reverse_reverse]
      intro d hd
      exact htrimmed.2 d (by rwa [List.head?_reverse] at hd)

/-- Only the two ends of a joined text matter. -/
theorem Trimmed.append {first second : List Char} (hfirst : Trimmed first) (hne : first ≠ [])
    (hsecond : Trimmed second) (hne' : second ≠ []) : Trimmed (first ++ second) := by
  constructor
  · intro c hc
    rw [List.head?_append, Option.or_of_isSome (List.isSome_head?.2 hne)] at hc
    exact hfirst.1 c hc
  · intro c hc
    rw [List.getLast?_append, Option.or_of_isSome (List.getLast?_isSome.2 hne')] at hc
    exact hsecond.2 c hc

end EditorShell.Text
