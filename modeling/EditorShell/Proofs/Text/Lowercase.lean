import EditorShell.Proofs.Text.Trimming
import EditorShell.Text.Lowercase

/-!
# Lower case, twice

The lower case of a text is in lower case already, and no blank comes out of a character that is
none.  Both are facts about the table of runs: the image of a run meets no run of the table, no
blank and no character that `lowerChars` treats by itself.

## Strategy

The table has some fifteen hundred characters, so it is not gone through member by member.  Two
runs are apart when one ends before the other starts, or when both advance by two and differ in
parity (`Run.apart`).  An image is compared with the runs of the table in the order in which
`lowerCode` looks at them, and no further than it looks (`Run.avoids`).
-/

namespace EditorShell.Text

open CaseData

/-! ## Runs of the table -/

/-- A line of the table: the first and last member, the step, and what leads to the lower case. -/
abbrev Run := Nat × Nat × Nat × Int

namespace Run

/-- The code points that a run speaks of. -/
def Covers (run : Run) (code : Nat) : Prop :=
  run.1 ≤ code ∧ code ≤ run.2.1 ∧ (code - run.1) % run.2.2.1 = 0

/-- The lower case of what a run covers, as a run. -/
def image : Run → Run
  | (first, last, step, offset) => ((first + offset).toNat, (last + offset).toNat, step, offset)

/-- Whether two runs are seen to have no member in common. -/
def apart : Run → Run → Bool
  | (first, last, step, _), (first', last', step', _) =>
    Nat.blt last first' || Nat.blt last' first ||
      ((step == 2 || first == last) && step' == 2 && (first + first') % 2 == 1)

/-- Whether a run is apart from those that `lowerCode` compares its members with. -/
def avoids (run : Run) : List Run → Bool
  | [] => true
  | other :: rest => Nat.blt run.2.1 other.1 || (apart run other && avoids run rest)

theorem Covers.image {run : Run} {code : Nat} (hcode : run.Covers code)
    (hstart : 0 ≤ (run.1 : Int) + run.2.2.2) :
    (Run.image run).Covers (code + run.2.2.2).toNat := by
  obtain ⟨first, last, step, offset⟩ := run
  obtain ⟨hfirst, hlast, hstep⟩ := hcode
  simp only at hfirst hlast hstep hstart
  refine ⟨?_, ?_, ?_⟩ <;> simp only [Run.image]
  · omega
  · omega
  · have hsame : (code + offset).toNat - (first + offset).toNat = code - first := by omega
    rw [hsame, hstep]

theorem not_covers_of_apart {run other : Run} (hapart : apart run other = true) {code : Nat}
    (hcode : run.Covers code) : ¬ other.Covers code := by
  obtain ⟨first, last, step, offset⟩ := run
  obtain ⟨first', last', step', offset'⟩ := other
  rintro ⟨hfirst', hlast', hstep'⟩
  obtain ⟨hfirst, hlast, hstep⟩ := hcode
  simp only [apart, Bool.or_eq_true, Bool.and_eq_true, beq_iff_eq, Nat.blt_eq] at hapart
  simp only at hfirst hlast hstep hfirst' hlast' hstep'
  rcases hapart with (hbefore | hbehind) | ⟨⟨htwo | hsingle, rfl⟩, hodd⟩
  · omega
  · omega
  · subst htwo
    omega
  · omega

theorem lowerCode_eq_self {run : Run} {runs : List Run} (havoids : avoids run runs = true)
    {code : Nat} (hcode : run.Covers code) : lowerCode code runs = code := by
  induction runs with
  | nil => rfl
  | cons other rest ih =>
      rw [avoids, Bool.or_eq_true, Bool.and_eq_true, Nat.blt_eq] at havoids
      rw [lowerCode]
      rcases havoids with hbefore | ⟨hapart, hrest⟩
      · have hlt : code < other.1 := Nat.lt_of_le_of_lt hcode.2.1 hbefore
        rw [if_pos hlt]
      · have hnot := not_covers_of_apart hapart hcode
        split
        · rfl
        · rename_i hfirst
          rw [if_neg fun hcovers => hnot ⟨Nat.le_of_not_lt hfirst, hcovers⟩, ih hrest]

end Run

/-- A code point is its own lower case, or a run covers it. -/
theorem lowerCode_cases (code : Nat) (runs : List Run) :
    lowerCode code runs = code ∨
      ∃ run ∈ runs, run.Covers code ∧ lowerCode code runs = (code + run.2.2.2).toNat := by
  induction runs with
  | nil => exact .inl rfl
  | cons run rest ih =>
      obtain ⟨first, last, step, offset⟩ := run
      by_cases hfirst : code < first
      · exact .inl (by simp [lowerCode, hfirst])
      · by_cases hcovers : code ≤ last ∧ (code - first) % step = 0
        · refine .inr ⟨_, List.mem_cons_self, ⟨Nat.le_of_not_lt hfirst, hcovers.1, hcovers.2⟩, ?_⟩
          simp [lowerCode, hfirst, hcovers]
        · have hrest : lowerCode code ((first, last, step, offset) :: rest) =
              lowerCode code rest := by simp only [lowerCode, hfirst, hcovers, if_false]
          rw [hrest]
          rcases ih with hself | ⟨run, hrun, hcovers, hlower⟩
          · exact .inl hself
          · exact .inr ⟨run, List.mem_cons_of_mem _ hrun, hcovers, hlower⟩

/-! ## The lower case of one character -/

/-- The blanks, as runs. -/
private def blankRuns : List Run :=
  [(0x09, 0x0D, 1, 0), (0x20, 0x20, 1, 0), (0x85, 0x85, 1, 0), (0xA0, 0xA0, 1, 0),
    (0x1680, 0x1680, 1, 0), (0x2000, 0x200A, 1, 0), (0x2028, 0x2029, 1, 0), (0x202F, 0x202F, 1, 0),
    (0x205F, 0x205F, 1, 0), (0x3000, 0x3000, 1, 0)]

private theorem exists_blankRuns {c : Char} (hblank : isBlank c = true) :
    ∃ run ∈ blankRuns, run.Covers c.toNat := by
  simp only [isBlank, Bool.or_eq_true, Bool.and_eq_true, decide_eq_true_eq, beq_iff_eq] at hblank
  simp only [blankRuns, List.mem_cons, List.not_mem_nil, or_false, exists_eq_or_imp,
    exists_eq_left, Run.Covers, Nat.mod_one, and_true]
  omega

/-- The capital I with dot above, as a run. -/
private def dottedRun : Run := (0x130, 0x130, 1, 0)

/-- The one fact about the table that is read off its lines. -/
private theorem lowerRuns_images : (lowerRuns.all fun run =>
    decide (0 ≤ (run.1 : Int) + run.2.2.2) &&
      (Run.avoids (Run.image run) lowerRuns &&
        (dottedRun :: blankRuns).all (Run.apart (Run.image run)))) = true := by
  decide +kernel

/-- A code point that lower case leaves alone, and that is neither blank nor the capital I with
dot above. -/
private structure Plain (code : Nat) : Prop where
  lower : lowerCode code lowerRuns = code
  free : ∀ run ∈ dottedRun :: blankRuns, ¬ run.Covers code

private theorem plain_image {run : Run} (hrun : run ∈ lowerRuns) {code : Nat}
    (hcode : run.Covers code) : Plain (code + run.2.2.2).toNat := by
  have hall := List.all_eq_true.1 lowerRuns_images run hrun
  rw [Bool.and_eq_true, Bool.and_eq_true, decide_eq_true_eq, List.all_eq_true] at hall
  obtain ⟨hstart, havoids, hapart⟩ := hall
  have himage := hcode.image hstart
  exact ⟨Run.lowerCode_eq_self havoids himage,
    fun other hother => Run.not_covers_of_apart (hapart other hother) himage⟩

/-- A character that is its own lower case. -/
def Settled (c : Char) : Prop := lowerChars c = [c]

instance (c : Char) : Decidable (Settled c) :=
  inferInstanceAs (Decidable (_ = _))

theorem Settled.ne_sigma {c : Char} (hsettled : Settled c) : c ≠ '\u03A3' := by
  rintro rfl
  exact absurd hsettled (by decide)

/-- What the lower case of a character consists of: the two characters of the capital I with dot
above, the character itself, or one with a plain code point. -/
private theorem lowerChars_cases {c d : Char} (hd : d ∈ lowerChars c) :
    d = 'i' ∨ d = '\u0307' ∨ (d = c ∧ Settled c) ∨ ∃ code, d = Char.ofNat code ∧ Plain code := by
  by_cases hdot : c = '\u0130'
  · rw [lowerChars, if_pos hdot] at hd
    simp only [List.mem_cons, List.not_mem_nil, or_false] at hd
    rcases hd with rfl | rfl
    · exact .inl rfl
    · exact .inr (.inl rfl)
  · have hchars : lowerChars c = [Char.ofNat (lowerCode c.toNat lowerRuns)] := if_neg hdot
    rw [hchars, List.mem_singleton] at hd
    rcases lowerCode_cases c.toNat lowerRuns with hself | ⟨run, hrun, hcovers, hcode⟩
    · rw [hself, Char.ofNat_toNat] at hd hchars
      exact .inr (.inr (.inl ⟨hd, hchars⟩))
    · exact .inr (.inr (.inr ⟨_, hcode ▸ hd, plain_image hrun hcovers⟩))

private theorem ofNat_cases (code : Nat) :
    (Char.ofNat code).toNat = code ∨ Char.ofNat code = '\x00' := by
  by_cases hvalid : code.isValidChar
  · left
    rw [Char.ofNat, dif_pos hvalid]
    rfl
  · right
    rw [Char.ofNat, dif_neg hvalid]
    rfl

theorem settled_of_mem_lowerChars {c d : Char} (hd : d ∈ lowerChars c) : Settled d := by
  rcases lowerChars_cases hd with rfl | rfl | ⟨rfl, hsettled⟩ | ⟨code, rfl, hplain⟩
  · decide
  · decide
  · exact hsettled
  · rcases ofNat_cases code with hcode | hnull
    · have hdot : Char.ofNat code ≠ '\u0130' := by
        intro hdot
        rw [hdot] at hcode
        subst hcode
        exact hplain.free dottedRun List.mem_cons_self (by simp [dottedRun, Run.Covers])
      rw [Settled, lowerChars, if_neg hdot, hcode, hplain.lower]
    · rw [hnull]
      decide

theorem isBlank_of_mem_lowerChars {c d : Char} (hd : d ∈ lowerChars c)
    (hblank : isBlank d = true) : isBlank c = true := by
  rcases lowerChars_cases hd with rfl | rfl | ⟨rfl, -⟩ | ⟨code, rfl, hplain⟩
  · exact absurd hblank (by decide)
  · exact absurd hblank (by decide)
  · exact hblank
  · rcases ofNat_cases code with hcode | hnull
    · obtain ⟨run, hrun, hcovers⟩ := exists_blankRuns hblank
      rw [hcode] at hcovers
      exact absurd hcovers (hplain.free run (List.mem_cons_of_mem _ hrun))
    · rw [hnull] at hblank
      exact absurd hblank (by decide)

theorem lowerChars_ne_nil (c : Char) : lowerChars c ≠ [] := by
  unfold lowerChars
  split <;> exact List.cons_ne_nil _ _

/-! ## The lower case of a text -/

/-- The two small sigmas and what single characters become: nothing else is in a lower case. -/
theorem mem_lowerAfter {before text : List Char} {d : Char} (hd : d ∈ lowerAfter before text) :
    d = '\u03C2' ∨ d = '\u03C3' ∨ ∃ c ∈ text, d ∈ lowerChars c := by
  induction text generalizing before with
  | nil => cases hd
  | cons c rest ih =>
      rw [lowerAfter] at hd
      split at hd
      · rcases List.mem_cons.1 hd with rfl | hd
        · split
          · exact .inl rfl
          · exact .inr (.inl rfl)
        · grind
      · rcases List.mem_append.1 hd with hd | hd
        · exact .inr (.inr ⟨c, List.mem_cons_self, hd⟩)
        · grind

theorem settled_of_mem_lowercase {text : List Char} {d : Char} (hd : d ∈ lowercase text) :
    Settled d := by
  rcases mem_lowerAfter hd with rfl | rfl | ⟨c, -, hd⟩
  · decide
  · decide
  · exact settled_of_mem_lowerChars hd

private theorem lowerAfter_eq_self {before text : List Char}
    (hsettled : ∀ c ∈ text, Settled c) : lowerAfter before text = text := by
  induction text generalizing before with
  | nil => rfl
  | cons c rest ih =>
      have hc : Settled c := hsettled c List.mem_cons_self
      rw [lowerAfter, if_neg hc.ne_sigma, hc, ih fun d hd => hsettled d (List.mem_cons_of_mem _ hd)]
      rfl

theorem lowercase_eq_self {text : List Char} (hsettled : ∀ c ∈ text, Settled c) :
    lowercase text = text :=
  lowerAfter_eq_self hsettled

/-- A text in lower case is empty only if there was nothing to put in lower case. -/
theorem lowercase_eq_nil_iff {text : List Char} : lowercase text = [] ↔ text = [] := by
  constructor
  · intro hlower
    cases text with
    | nil => rfl
    | cons c rest =>
        unfold lowercase lowerAfter at hlower
        split at hlower
        · cases hlower
        · exact absurd (List.append_eq_nil_iff.1 hlower).1 (lowerChars_ne_nil c)
  · rintro rfl
    rfl

private theorem lowerAfter_concat (before text : List Char) (c : Char) :
    ∃ start ending, ending ≠ [] ∧ lowerAfter before (text ++ [c]) = start ++ ending ∧
      ∀ d ∈ ending, d = '\u03C2' ∨ d = '\u03C3' ∨ d ∈ lowerChars c := by
  induction text generalizing before with
  | nil =>
      refine ⟨[], lowerAfter before [c], ?_, rfl, ?_⟩
      · rw [lowerAfter]
        split
        · exact List.cons_ne_nil _ _
        · simpa [lowerAfter] using lowerChars_ne_nil c
      · intro d hd
        simpa using mem_lowerAfter hd
  | cons first rest ih =>
      obtain ⟨start, ending, hne, hlower, hending⟩ := ih (first :: before)
      rw [List.cons_append, lowerAfter, hlower]
      split
      · exact ⟨_ :: start, ending, hne, rfl, hending⟩
      · exact ⟨lowerChars first ++ start, ending, hne, (List.append_assoc ..).symm, hending⟩

/-- A text that does not end with a blank has a lower case of that kind. -/
theorem isBlank_getLast_lowercase {text : List Char}
    (hlast : ∀ c ∈ text.getLast?, isBlank c = false) :
    ∀ d ∈ (lowercase text).getLast?, isBlank d = false := by
  intro d hd
  rcases List.eq_nil_or_concat text with rfl | ⟨rest, c, rfl⟩
  · cases hd
  · obtain ⟨start, ending, hne, hlower, hending⟩ := lowerAfter_concat [] rest c
    rw [List.concat_eq_append, lowercase, hlower, List.getLast?_append,
      Option.or_of_isSome (List.getLast?_isSome.2 hne)] at hd
    rcases hending d (List.mem_of_mem_getLast? hd) with rfl | rfl | hd
    · decide
    · decide
    · rw [Bool.eq_false_iff]
      intro hblank
      have hc := hlast c (by simp)
      rw [isBlank_of_mem_lowerChars hd hblank] at hc
      cases hc

end EditorShell.Text
