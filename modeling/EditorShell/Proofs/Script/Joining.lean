import EditorShell.Proofs.Script.Arguments
import EditorShell.Proofs.Text.Trimming
import EditorShell.Script

/-!
# Scripts put together

A script is read line by line, and the only thing that a line learns about the others is its
number.  So the steps of a script are those of its lines one after the other, and an error moves
down with the lines put before it (`stepsFrom_append`, `stepsFrom_below`).

What makes this more than a fold is the reading of the lines.  A line end at the end of a text
starts no further line, so a script that ends with a line end can be followed by any other
(`lines_append`), and then the lines before an error are counted whether they have steps or not.
A blank line and a comment are the lines of which nothing is left once their comment is cut off
(`isIdle_iff`); a carriage return at the end of a line is a blank, unless it belongs to a comment
(`trim_beforeComment_withoutReturn`).
-/

namespace EditorShell

namespace ScriptError

/-- The number of the line that an error names. -/
def line? : ScriptError → Option Nat
  | invalidChord line _ | invalidDelay line _ | invalidArgs line | trailingText line _
  | missingCommand line => some line
  | noSteps => none

/-- The same error `count` lines further down. -/
def below (count : Nat) : ScriptError → ScriptError
  | invalidChord line cause => .invalidChord (count + line) cause
  | invalidDelay line delay => .invalidDelay (count + line) delay
  | invalidArgs line => .invalidArgs (count + line)
  | trailingText line text => .trailingText (count + line) text
  | missingCommand line => .missingCommand (count + line)
  | noSteps => .noSteps

@[simp]
theorem line?_below (count : Nat) (cause : ScriptError) :
    (cause.below count).line? = cause.line?.map (count + ·) := by
  cases cause <;> rfl

theorem below_below (first second : Nat) (cause : ScriptError) :
    (cause.below second).below first = cause.below (first + second) := by
  cases cause <;> simp [below, Nat.add_assoc]

@[simp]
theorem below_zero (cause : ScriptError) : cause.below 0 = cause := by
  cases cause <;> simp [below]

end ScriptError

namespace Script

variable {text first second : List Char} {steps : List ScriptStep}

/-- The lines of a text.  A line end at the end of the text starts no further line. -/
def lines (text : String) : List (List Char) :=
  let parts := List.splitOn '\n' text.toList
  if parts.getLast? = some [] then parts.dropLast else parts

/-- A line that is blank, or has only blanks before its comment. -/
def IsIdle (line : List Char) : Prop :=
  ∃ blanks rest, line = blanks ++ rest ∧ (∀ c ∈ blanks, Text.isBlank c = true) ∧
    (rest = [] ∨ rest.head? = some '#' ∧ ∀ c ∈ blanks.getLast?, opensComment c = true)

/-- A line without the carriage return at its end, if it has one. -/
def withoutReturn (line : List Char) : List Char :=
  if line.getLast? = some '\r' then line.dropLast else line

/-- The text is a script of these steps; a script without steps is refused as such. -/
def Yields (text : String) (steps : List ScriptStep) : Prop :=
  parse text = if steps = [] then .error .noSteps else .ok steps

/-- The text is refused because of this line. -/
def FailsAt (text : String) (line : Nat) (cause : ScriptError) : Prop :=
  parse text = .error cause ∧ cause.line? = some line

/-! ## Lines in sequence -/

theorem runStep_below (count line : Nat) (text : List Char) :
    runStep (count + line) text = (runStep line text).mapError (ScriptError.below count) := by
  unfold runStep
  dsimp only
  split
  · rfl
  · split
    · rfl
    · cases Json.Value.parse? (String.ofList (splitWord text).2) <;> rfl

/-- A line that stands further down is read in the same way. -/
theorem lineStep_below (count line : Nat) (text : List Char) :
    lineStep (count + line) text = (lineStep line text).mapError (ScriptError.below count) := by
  unfold lineStep
  dsimp only
  split
  · cases delay? (splitWord text).2 <;> rfl
  split
  · rfl
  split
  · exact runStep_below count line _
  split
  · rfl
  · cases Chord.parse (String.ofList (splitWord text).1) <;> rfl

theorem line?_runStep {line : Nat} {text : List Char} {cause : ScriptError}
    (hstep : runStep line text = .error cause) : cause.line? = some line := by
  unfold runStep at hstep
  dsimp only at hstep
  split at hstep
  · cases hstep
    rfl
  · split at hstep
    · cases hstep
    · cases hparse : Json.Value.parse? (String.ofList (splitWord text).2) <;>
        rw [hparse] at hstep <;> cases hstep
      rfl

/-- A line that is refused is named. -/
theorem line?_lineStep {line : Nat} {text : List Char} {cause : ScriptError}
    (hstep : lineStep line text = .error cause) : cause.line? = some line := by
  unfold lineStep at hstep
  dsimp only at hstep
  split at hstep
  · cases hdelay : delay? (splitWord text).2 <;> rw [hdelay] at hstep <;> cases hstep
    rfl
  split at hstep
  · cases hstep
  split at hstep
  · exact line?_runStep hstep
  split at hstep
  · cases hstep
    rfl
  · cases hchord : Chord.parse (String.ofList (splitWord text).1) <;> rw [hchord] at hstep <;>
      cases hstep
    rfl

theorem stepsFrom_below (count line : Nat) (texts : List (List Char)) :
    stepsFrom (count + line) texts =
      (stepsFrom line texts).mapError (ScriptError.below count) := by
  induction texts generalizing line with
  | nil => rfl
  | cons text rest ih =>
      rw [stepsFrom, stepsFrom, Nat.add_assoc, ih (line + 1), lineStep_below]
      split
      · rfl
      · cases lineStep line (Text.trim (beforeComment true text)) with
        | error cause => rfl
        | ok step => cases stepsFrom (line + 1) rest <;> rfl

/-- The steps of lines one after the other; the first line that is refused decides. -/
theorem stepsFrom_append (line : Nat) (before after : List (List Char)) :
    stepsFrom line (before ++ after) = (stepsFrom line before).bind fun steps =>
      (stepsFrom (line + before.length) after).map (steps ++ ·) := by
  induction before generalizing line with
  | nil =>
      show stepsFrom line after = (stepsFrom (line + 0) after).map ([] ++ ·)
      cases stepsFrom line after <;> rfl
  | cons text rest ih =>
      have hlength : line + 1 + rest.length = line + (text :: rest).length := by
        rw [List.length_cons]
        omega
      rw [List.cons_append, stepsFrom, stepsFrom, ih (line + 1), hlength]
      split
      · rfl
      · cases lineStep line (Text.trim (beforeComment true text)) with
        | error cause => rfl
        | ok step =>
            cases stepsFrom (line + 1) rest with
            | error cause => rfl
            | ok steps => cases stepsFrom (line + (text :: rest).length) after <;> rfl

theorem line?_stepsFrom_line {line : Nat} {text : List Char} {cause : ScriptError}
    (hsteps : stepsFrom line [text] = .error cause) : cause.line? = some line := by
  rw [stepsFrom] at hsteps
  split at hsteps
  · cases hsteps
  · cases hline : lineStep line (Text.trim (beforeComment true text)) with
    | ok step =>
        rw [hline] at hsteps
        cases hsteps
    | error own =>
        rw [hline] at hsteps
        cases hsteps
        exact line?_lineStep hline

theorem line?_stepsFrom {line : Nat} {texts : List (List Char)} {cause : ScriptError}
    (hsteps : stepsFrom line texts = .error cause) : ∃ n, cause.line? = some n := by
  induction texts generalizing line with
  | nil => cases hsteps
  | cons text rest ih =>
      -- The error is the one of this line, or one of the lines behind it.
      rw [← List.singleton_append, stepsFrom_append] at hsteps
      cases hline : stepsFrom line [text] with
      | error own =>
          rw [hline] at hsteps
          cases hsteps
          exact ⟨line, line?_stepsFrom_line hline⟩
      | ok steps =>
          cases hrest : stepsFrom (line + 1) rest with
          | ok later => simp [hline, hrest, Except.bind, Except.map] at hsteps
          | error own =>
              have hown : own = cause := by
                simpa [hline, hrest, Except.bind, Except.map] using hsteps
              exact ih (hown ▸ hrest)

/-! ## The lines of a text -/

/-- A script that ends with a line end, or is empty, is followed by another one line by line. -/
theorem lines_append {first : String} (hfirst : first = "" ∨ first.toList.getLast? = some '\n')
    (second : String) : lines (first ++ second) = lines first ++ lines second := by
  rcases hfirst with rfl | hlast
  · have hempty : lines "" = [] := rfl
    rw [String.empty_append, hempty, List.nil_append]
  · obtain ⟨before, hbefore⟩ := List.getLast?_eq_some_iff.1 hlast
    -- The text ends its last line, so splitting leaves an empty piece that is dropped again.
    have hparts : List.splitOn '\n' first.toList = List.splitOn '\n' before ++ [[]] := by
      rw [hbefore, List.splitOn_append_cons_self]
      rfl
    have hne : List.splitOn '\n' second.toList ≠ [] :=
      List.splitOn_ne_nil '\n' second.toList
    have hjoined : List.splitOn '\n' (first ++ second).toList =
        List.splitOn '\n' before ++ List.splitOn '\n' second.toList := by
      rw [String.toList_append, hbefore, List.append_assoc, List.singleton_append,
        List.splitOn_append_cons_self]
    have hown : lines first = List.splitOn '\n' before := by
      simp [lines, hparts]
    rw [hown, lines, lines, hjoined]
    rw [List.getLast?_append_of_ne_nil _ hne, List.dropLast_append_of_ne_nil hne]
    split <;> rfl

/-- An empty part at the end of a text has no steps. -/
theorem stepsFrom_lines (line : Nat) (text : String) :
    stepsFrom line (lines text) = stepsFrom line (List.splitOn '\n' text.toList) := by
  unfold lines
  dsimp only
  split
  · rename_i hlast
    obtain ⟨before, hbefore⟩ := List.getLast?_eq_some_iff.1 hlast
    rw [hbefore, List.dropLast_concat, stepsFrom_append]
    cases stepsFrom line before with
    | error cause => rfl
    | ok steps =>
        show Except.ok steps = Except.ok (steps ++ [])
        rw [List.append_nil]
  · rfl

theorem parse_eq (text : String) :
    parse text = match stepsFrom 1 (lines text) with
      | .error cause => .error cause
      | .ok [] => .error .noSteps
      | .ok steps => .ok steps := by
  rw [stepsFrom_lines]
  rfl

theorem yields_iff {text : String} : Yields text steps ↔ stepsFrom 1 (lines text) = .ok steps := by
  unfold Yields
  rw [parse_eq]
  cases hlines : stepsFrom 1 (lines text) with
  | error cause =>
      obtain ⟨n, hn⟩ := line?_stepsFrom hlines
      have hne : cause ≠ .noSteps := by
        rintro rfl
        cases hn
      simp only [reduceCtorEq, iff_false]
      split <;> simp [hne]
  | ok found =>
      cases found <;> cases steps <;> simp

theorem failsAt_iff {text : String} {line : Nat} {cause : ScriptError} :
    FailsAt text line cause ↔
      stepsFrom 1 (lines text) = .error cause ∧ cause.line? = some line := by
  unfold FailsAt
  rw [parse_eq]
  refine and_congr_left fun hline => ?_
  have hne : cause ≠ .noSteps := by
    rintro rfl
    cases hline
  cases hlines : stepsFrom 1 (lines text) with
  | error own => rfl
  | ok found => cases found <;> simp [Ne.symm hne]

theorem yields_or_failsAt (text : String) :
    (∃ steps, Yields text steps) ∨ ∃ line cause, FailsAt text line cause := by
  cases hlines : stepsFrom 1 (lines text) with
  | ok steps => exact .inl ⟨steps, yields_iff.2 hlines⟩
  | error cause =>
      obtain ⟨line, hline⟩ := line?_stepsFrom hlines
      exact .inr ⟨line, cause, failsAt_iff.2 ⟨hlines, hline⟩⟩

/-! ## Lines without steps -/

/-- What is cut off a line starts with a number sign, and the kept part lets a comment start. -/
theorem exists_comment (mayStart : Bool) (line : List Char) :
    ∃ comment, line = beforeComment mayStart line ++ comment ∧
      (comment = [] ∨ comment.head? = some '#' ∧
        ∀ c ∈ (beforeComment mayStart line).getLast?, opensComment c = true) := by
  induction line generalizing mayStart with
  | nil => exact ⟨[], rfl, .inl rfl⟩
  | cons c rest ih =>
      rw [beforeComment]
      split
      · rename_i hcut
        rw [Bool.and_eq_true, beq_iff_eq] at hcut
        refine ⟨c :: rest, rfl, .inr ⟨by rw [List.head?_cons, hcut.2], ?_⟩⟩
        intro d hd
        cases hd
      · obtain ⟨comment, hrest, hcomment⟩ := ih (opensComment c)
        refine ⟨comment, by rw [List.cons_append, ← hrest], hcomment.imp_right ?_⟩
        rintro ⟨hhead, hlast⟩
        refine ⟨hhead, ?_⟩
        intro d hd
        cases hkept : beforeComment (opensComment c) rest with
        | nil =>
            -- Nothing is kept behind `c`, so `c` itself has let the comment start.
            rw [hkept] at hd hrest
            obtain rfl : c = d := by simpa using hd
            obtain ⟨later, rfl⟩ := List.head?_eq_some_iff.1 hhead
            rw [hrest, List.nil_append, beforeComment] at hkept
            split at hkept
            · rename_i hcut
              exact (Bool.and_eq_true _ _ ▸ hcut).1
            · cases hkept
        | cons e kept =>
            refine hlast d ?_
            rw [hkept] at hd ⊢
            rwa [List.getLast?_cons_cons] at hd

theorem beforeComment_of_notMem {mayStart : Bool} {line : List Char} (hline : '#' ∉ line) :
    beforeComment mayStart line = line := by
  induction line generalizing mayStart with
  | nil => rfl
  | cons c rest ih =>
      rw [List.mem_cons, not_or] at hline
      rw [beforeComment, ih hline.2, if_neg (by simp [Ne.symm hline.1])]

/-- A comment behind blanks is cut off, and the blanks are kept. -/
theorem beforeComment_blanks {mayStart : Bool} {blanks : List Char}
    (hblanks : ∀ c ∈ blanks, Text.isBlank c = true) (hstart : blanks = [] → mayStart = true)
    (hlast : ∀ c ∈ blanks.getLast?, opensComment c = true) (later : List Char) :
    beforeComment mayStart (blanks ++ '#' :: later) = blanks := by
  induction blanks generalizing mayStart with
  | nil => rw [hstart rfl]; rfl
  | cons c blanks ih =>
      rw [List.forall_mem_cons] at hblanks
      have hne : c ≠ '#' := by
        rintro rfl
        cases hblanks.1
      -- Each blank decides whether a comment may open behind it, so what may start is generalized.
      have hrest : beforeComment (opensComment c) (blanks ++ '#' :: later) = blanks := by
        apply ih hblanks.2
        · rintro rfl
          exact hlast c rfl
        · intro d hd
          refine hlast d ?_
          cases blanks with
          | nil => cases hd
          | cons e blanks => rwa [List.getLast?_cons_cons]
      rw [List.cons_append, beforeComment, hrest, if_neg (by simp [hne])]

/-- Nothing is left of a line without its comment exactly if the line is idle. -/
theorem isIdle_iff {line : List Char} :
    IsIdle line ↔ Text.trim (beforeComment true line) = [] := by
  constructor
  · rintro ⟨blanks, rest, rfl, hblanks, hrest⟩
    have hkept : beforeComment true (blanks ++ rest) = blanks := by
      -- A line that does nothing has blanks only, or a comment behind them.
      rcases hrest with rfl | ⟨hhead, hlast⟩
      · rw [List.append_nil]
        apply beforeComment_of_notMem
        intro hmem
        cases hblanks '#' hmem
      · obtain ⟨later, rfl⟩ := List.head?_eq_some_iff.1 hhead
        exact beforeComment_blanks hblanks (fun _ => rfl) hlast later
    rw [hkept, Text.trim_eq_iff]
    exact ⟨⟨by simp, by simp⟩, blanks, [], by simp, by simpa using hblanks⟩
  · intro htrim
    obtain ⟨comment, hline, hcomment⟩ := exists_comment true line
    exact ⟨_, comment, hline, fun c hc => Text.isBlank_of_trim_eq_nil htrim hc, hcomment⟩

instance (line : List Char) : Decidable (IsIdle line) :=
  decidable_of_iff _ isIdle_iff.symm

theorem stepsFrom_idle {line : List Char} (hidle : IsIdle line) (number : Nat)
    (rest : List (List Char)) : stepsFrom number (line :: rest) = stepsFrom (number + 1) rest := by
  rw [stepsFrom, isIdle_iff.1 hidle]
  rfl

theorem stepsFrom_eq_ok_iff (first second : Nat) {texts : List (List Char)} :
    stepsFrom first texts = .ok steps ↔ stepsFrom second texts = .ok steps := by
  rw [← Nat.add_zero first, ← Nat.add_zero second, stepsFrom_below, stepsFrom_below]
  cases stepsFrom 0 texts <;> simp [Except.mapError]

theorem stepsFrom_cons_eq_ok_iff {number : Nat} {line : List Char} {rest : List (List Char)} :
    stepsFrom number (line :: rest) = .ok steps ↔ ∃ own later, stepsFrom number [line] = .ok own ∧
      stepsFrom (number + 1) rest = .ok later ∧ steps = own ++ later := by
  rw [← List.singleton_append, stepsFrom_append]
  cases stepsFrom number [line] with
  | error cause => simp [Except.bind]
  | ok own =>
      show (stepsFrom (number + 1) rest).map (own ++ ·) = .ok steps ↔ _
      cases stepsFrom (number + 1) rest <;> simp [Except.map, eq_comm]

/-- Idle lines have no part in the steps. -/
theorem stepsFrom_filter_idle (number : Nat) (texts : List (List Char)) :
    stepsFrom number (texts.filter fun line => !decide (IsIdle line)) = .ok steps ↔
      stepsFrom number texts = .ok steps := by
  induction texts generalizing number steps with
  | nil => rfl
  | cons line rest ih =>
      by_cases hidle : IsIdle line
      · rw [List.filter_cons_of_neg (by simpa using hidle), stepsFrom_idle hidle, ih]
        exact stepsFrom_eq_ok_iff _ _
      · rw [List.filter_cons_of_pos (by simpa using hidle), stepsFrom_cons_eq_ok_iff,
          stepsFrom_cons_eq_ok_iff]
        simp only [ih]

/-! ## Carriage returns -/

theorem beforeComment_concat {c : Char} (hc : c ≠ '#') (mayStart : Bool) (line : List Char) :
    beforeComment mayStart (line ++ [c]) = beforeComment mayStart line ∨
      beforeComment mayStart (line ++ [c]) = beforeComment mayStart line ++ [c] := by
  induction line generalizing mayStart with
  | nil => exact .inr (by simp [beforeComment, hc])
  | cons d rest ih =>
      rw [List.cons_append, beforeComment, beforeComment]
      split
      · exact .inl rfl
      · rcases ih (opensComment d) with hrest | hrest
        · exact .inl (by rw [hrest])
        · exact .inr (by rw [hrest, List.cons_append])

theorem trim_concat {c : Char} (hc : Text.isBlank c = true) (text : List Char) :
    Text.trim (text ++ [c]) = Text.trim text := by
  obtain ⟨htrimmed, before, after, htext, hblank⟩ :=
    Text.trim_eq_iff.1 (rfl : Text.trim text = Text.trim text)
  refine Text.trim_eq_iff.2 ⟨htrimmed, before, after ++ [c], ?_, ?_⟩
  · rw [← List.append_assoc, ← htext]
  · intro d hd
    rw [← List.append_assoc, List.mem_append, List.mem_singleton] at hd
    rcases hd with hd | rfl
    · exact hblank d hd
    · exact hc

/-- A carriage return at the end of a line changes nothing. -/
theorem trim_beforeComment_withoutReturn (line : List Char) :
    Text.trim (beforeComment true (withoutReturn line)) =
      Text.trim (beforeComment true line) := by
  unfold withoutReturn
  split
  · rename_i hlast
    obtain ⟨kept, rfl⟩ := List.getLast?_eq_some_iff.1 hlast
    rw [List.dropLast_concat]
    have hreturn : '\r' ≠ '#' := by decide
    rcases beforeComment_concat hreturn true kept with hkept | hkept
    · rw [hkept]
    · rw [hkept, trim_concat (by decide)]
  · rfl

theorem stepsFrom_map_withoutReturn (number : Nat) (texts : List (List Char)) :
    stepsFrom number (texts.map withoutReturn) = stepsFrom number texts := by
  induction texts generalizing number with
  | nil => rfl
  | cons line rest ih =>
      rw [List.map_cons, stepsFrom, stepsFrom, trim_beforeComment_withoutReturn, ih]

/-! ## The first bad line -/

/-- A line of a text, as a script of its own. -/
theorem stepsFrom_line {text : String} {line : List Char} (hline : line ∈ lines text)
    (number : Nat) : stepsFrom number (lines (String.ofList line)) = stepsFrom number [line] := by
  have hpart : line ∈ List.splitOn '\n' text.toList := by
    unfold lines at hline
    dsimp only at hline
    split at hline
    · exact (List.dropLast_subset _) hline
    · exact hline
  have hwhole : List.splitOn '\n' line = [line] :=
    List.splitOn_eq_singleton (Text.not_mem_of_mem_splitOn hpart)
  rw [stepsFrom_lines, String.toList_ofList, hwhole]

/-- Lines are refused for the first of them that is refused on its own. -/
theorem stepsFrom_eq_error_iff {texts : List (List Char)} {cause : ScriptError} :
    stepsFrom 1 texts = .error cause ↔ ∃ before line after own, texts = before ++ line :: after ∧
      (∀ earlier ∈ before, ∃ steps, stepsFrom 1 [earlier] = .ok steps) ∧
      stepsFrom 1 [line] = .error own ∧ cause = own.below before.length := by
  constructor
  · intro htexts
    -- A bad first line is the one looked for; after a good one the error is counted from the next
    -- line.
    induction texts generalizing cause with
    | nil => cases htexts
    | cons line rest ih =>
        rw [← List.singleton_append, stepsFrom_append] at htexts
        cases hline : stepsFrom 1 [line] with
        | error own =>
            rw [hline] at htexts
            cases htexts
            exact ⟨[], line, rest, cause, rfl, by simp, hline, cause.below_zero.symm⟩
        | ok steps =>
            rw [hline, show 1 + [line].length = 1 + 1 from rfl, stepsFrom_below] at htexts
            cases hrest : stepsFrom 1 rest with
            | ok later =>
                rw [hrest] at htexts
                cases htexts
            | error later =>
                rw [hrest] at htexts
                cases htexts
                obtain ⟨before, bad, after, own, rfl, hbefore, hbad, rfl⟩ := ih hrest
                refine ⟨line :: before, bad, after, own, rfl, ?_, hbad, ?_⟩
                · rw [List.forall_mem_cons]
                  exact ⟨⟨steps, hline⟩, hbefore⟩
                · rw [ScriptError.below_below, List.length_cons, Nat.add_comm]
  · rintro ⟨before, line, after, own, rfl, hbefore, hline, rfl⟩
    have hsteps : ∃ steps, stepsFrom 1 before = .ok steps := by
      clear hline
      induction before with
      | nil => exact ⟨[], rfl⟩
      | cons first before ih =>
          rw [List.forall_mem_cons] at hbefore
          obtain ⟨⟨own, hown⟩, hrest⟩ := hbefore
          obtain ⟨later, hlater⟩ := ih hrest
          exact ⟨own ++ later, stepsFrom_cons_eq_ok_iff.2
            ⟨own, later, hown, (stepsFrom_eq_ok_iff _ _).1 hlater, rfl⟩⟩
    obtain ⟨steps, hsteps⟩ := hsteps
    rw [stepsFrom_append, hsteps, ← List.singleton_append, Nat.add_comm, stepsFrom_below,
      stepsFrom_append, hline]
    rfl

theorem parse_congr_withoutReturn {text other : String}
    (hlines : (lines text).map withoutReturn = (lines other).map withoutReturn) :
    parse text = parse other := by
  have hsteps : stepsFrom 1 (lines text) = stepsFrom 1 (lines other) := by
    rw [← stepsFrom_map_withoutReturn, hlines, stepsFrom_map_withoutReturn]
  rw [parse_eq, parse_eq, hsteps]

theorem yields_congr_idle {text other : String}
    (hlines : ((lines text).filter fun line => !decide (IsIdle line)) =
      (lines other).filter fun line => !decide (IsIdle line)) :
    Yields text steps ↔ Yields other steps := by
  rw [yields_iff, yields_iff, ← stepsFrom_filter_idle, hlines, stepsFrom_filter_idle]

/-- A script is refused for its first line that is refused as a script of its own, with the error of
that line, moved down by the lines before it. -/
theorem failsAt_iff_first {text : String} {line : Nat} {cause : ScriptError} :
    FailsAt text line cause ↔ ∃ before bad after own, lines text = before ++ bad :: after ∧
      (∀ earlier ∈ before, ∃ steps, Yields (String.ofList earlier) steps) ∧
      FailsAt (String.ofList bad) 1 own ∧ line = before.length + 1 ∧
      cause = own.below before.length := by
  rw [failsAt_iff, stepsFrom_eq_error_iff]
  constructor
  · rintro ⟨⟨before, bad, after, own, htext, hbefore, hbad, rfl⟩, hline⟩
    have hmem : ∀ earlier ∈ before, earlier ∈ lines text := fun earlier hearlier => by
      rw [htext]
      exact List.mem_append_left _ hearlier
    have hmem' : bad ∈ lines text := by simp [htext]
    have hown : own.line? = some 1 := line?_stepsFrom_line hbad
    -- A single line is a script of its own, in which it has the number one.
    refine ⟨before, bad, after, own, htext, ?_, ?_, ?_, rfl⟩
    · intro earlier hearlier
      obtain ⟨steps, hsteps⟩ := hbefore earlier hearlier
      exact ⟨steps, yields_iff.2 ((stepsFrom_line (hmem earlier hearlier) 1).trans hsteps)⟩
    · exact failsAt_iff.2 ⟨(stepsFrom_line hmem' 1).trans hbad, hown⟩
    · rw [ScriptError.line?_below, hown] at hline
      exact (Option.some.inj hline).symm
  · rintro ⟨before, bad, after, own, htext, hbefore, hbad, rfl, rfl⟩
    have hmem' : bad ∈ lines text := by simp [htext]
    obtain ⟨hbad, hown⟩ := failsAt_iff.1 hbad
    rw [stepsFrom_line hmem'] at hbad
    refine ⟨⟨before, bad, after, own, htext, ?_, hbad, rfl⟩, ?_⟩
    · intro earlier hearlier
      obtain ⟨steps, hsteps⟩ := hbefore earlier hearlier
      have hmem : earlier ∈ lines text := by
        rw [htext]
        exact List.mem_append_left _ hearlier
      exact ⟨steps, (stepsFrom_line hmem 1).symm.trans (yields_iff.1 hsteps)⟩
    · rw [ScriptError.line?_below, hown]
      rfl

/-- **Scripts put together.**  A script that is empty or ends with a line end is read before any
script that follows it: the steps of both come one after the other, an error of the first is that
of the whole, and an error of the second, if the first has none, is that of the whole at the line
that it then stands in.

Hence line ends with a carriage return change nothing, idle lines do not change the steps, and an
error names the first bad line, counted over all lines from one. -/
theorem scripts_joined :
    (∀ first second : String, first = "" ∨ first.toList.getLast? = some '\n' →
      (∀ steps later, Yields first steps → Yields second later →
        Yields (first ++ second) (steps ++ later)) ∧
      (∀ line cause, FailsAt first line cause → FailsAt (first ++ second) line cause) ∧
      ((∀ line cause, ¬FailsAt first line cause) → ∀ line cause, FailsAt second line cause →
        FailsAt (first ++ second) ((lines first).length + line)
          (cause.below (lines first).length))) ∧
    (∀ text other : String, (lines text).map withoutReturn = (lines other).map withoutReturn →
      parse text = parse other) ∧
    (∀ text other : String, ((lines text).filter fun line => !decide (IsIdle line)) =
        (lines other).filter (fun line => !decide (IsIdle line)) →
      ∀ steps, Yields text steps ↔ Yields other steps) ∧
    ∀ text line cause, FailsAt text line cause ↔
      ∃ before bad after own, lines text = before ++ bad :: after ∧
        (∀ earlier ∈ before, ∃ steps, Yields (String.ofList earlier) steps) ∧
        FailsAt (String.ofList bad) 1 own ∧ line = before.length + 1 ∧
        cause = own.below before.length := by
  refine ⟨?_, fun _ _ => parse_congr_withoutReturn, fun _ _ hlines _ => yields_congr_idle hlines,
    fun _ _ _ => failsAt_iff_first⟩
  intro first second hfirst
  -- The lines of the second text are read as they would be alone, only counted on.
  have hjoined : stepsFrom 1 (lines (first ++ second)) =
      (stepsFrom 1 (lines first)).bind fun steps =>
        ((stepsFrom 1 (lines second)).mapError (ScriptError.below (lines first).length)).map
          (steps ++ ·) := by
    rw [lines_append hfirst, stepsFrom_append, Nat.add_comm 1, stepsFrom_below]
  refine ⟨?_, ?_, ?_⟩
  · intro steps later hsteps hlater
    rw [yields_iff] at hsteps hlater ⊢
    rw [hjoined, hsteps, hlater]
    rfl
  · intro line cause hfails
    rw [failsAt_iff] at hfails ⊢
    rw [hjoined, hfails.1]
    exact ⟨rfl, hfails.2⟩
  · intro hnot line cause hfails
    obtain ⟨steps, hsteps⟩ := (yields_or_failsAt first).resolve_right fun ⟨line, cause, hfirst⟩ =>
      hnot line cause hfirst
    rw [yields_iff] at hsteps
    rw [failsAt_iff] at hfails ⊢
    rw [hjoined, hsteps, hfails.1]
    exact ⟨rfl, by rw [ScriptError.line?_below, hfails.2]; rfl⟩

/-- Three lines, of which one is a comment and one blank, stand before the line that is refused. -/
theorem scripts_joined_delay :
    ("# keys\r\nctrl+s\n\n".toList.getLast? = some '\n') ∧
    (∀ line cause, ¬FailsAt "# keys\r\nctrl+s\n\n" line cause) ∧
    FailsAt "show\nwait soon" 2 (.invalidDelay 2 "soon") ∧
    FailsAt ("# keys\r\nctrl+s\n\n" ++ "show\nwait soon") 5 (.invalidDelay 5 "soon") := by
  have hlast : "# keys\r\nctrl+s\n\n".toList.getLast? = some '\n' := by decide
  have hkeys : parse "# keys\r\nctrl+s\n\n" = .ok [.key ⟨.ctrl, "s"⟩] := by decide +kernel
  have hfirst : ∀ line cause, ¬FailsAt "# keys\r\nctrl+s\n\n" line cause := by
    rintro line cause ⟨hparse, -⟩
    rw [hkeys] at hparse
    cases hparse
  have hsecond : FailsAt "show\nwait soon" 2 (.invalidDelay 2 "soon") :=
    ⟨by decide +kernel, rfl⟩
  exact ⟨hlast, hfirst, hsecond,
    (scripts_joined.1 _ _ (.inr hlast)).2.2 hfirst 2 _ hsecond⟩

end Script

end EditorShell
