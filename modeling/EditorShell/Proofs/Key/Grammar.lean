import EditorShell.Proofs.Key.Spelling
import Mathlib.Data.List.Forall2

/-!
# The grammar of chords

What a text is read as, told without the order in which reading looks at it.  The text is trimmed
and put in lower case, and then it is a key alone, or parts that name modifiers, each closed by a
plus sign, and a key behind them (`Chord.Cut`).  A key has no plus sign in it, unless it is the
plus key, written as a plus sign of its own: so a text that ends in one plus sign, and is not the
plus key alone, cannot be cut.

`Chord.Reading` gives the result for every text: the chord, or the reason why there is none.  That
reading follows it is shown in two halves.  A text that can be cut is cut in one way, the one that
`splitKey` finds, and `unite` stops at the first part that names nothing.
-/

namespace EditorShell

/-! ## Unions of modifiers -/

namespace Modifiers

/-- All modifiers of a list together. -/
def unions (all : List Modifiers) : Modifiers := all.foldr union none

theorem none_union (held : Modifiers) : none.union held = held :=
  congrArg Modifiers.mk UInt8.zero_or

theorem union_self (held : Modifiers) : held.union held = held :=
  congrArg Modifiers.mk UInt8.or_self

theorem union_comm (first second : Modifiers) : first.union second = second.union first :=
  congrArg Modifiers.mk (UInt8.or_comm _ _)

theorem union_assoc (first second third : Modifiers) :
    (first.union second).union third = first.union (second.union third) :=
  congrArg Modifiers.mk (UInt8.or_assoc _ _ _)

/-- A union adds nothing to what holds every member of it already. -/
private theorem unions_union_of_forall {all : List Modifiers} {held : Modifiers}
    (hall : ∀ one ∈ all, one.union held = held) : (unions all).union held = held := by
  induction all with
  | nil => exact none_union held
  | cons one rest ih =>
      have hrest : (unions rest).union held = held :=
        ih fun other hother => hall other (List.mem_cons_of_mem _ hother)
      calc (one.union (unions rest)).union held
          = one.union ((unions rest).union held) := union_assoc _ _ _
        _ = held := by rw [hrest, hall one List.mem_cons_self]

private theorem union_unions_of_mem {all : List Modifiers} {one : Modifiers} (hone : one ∈ all) :
    one.union (unions all) = unions all := by
  induction all with
  | nil => cases hone
  | cons first rest ih =>
      change one.union (first.union (unions rest)) = first.union (unions rest)
      rcases List.mem_cons.1 hone with rfl | hrest
      · rw [← union_assoc, union_self]
      · rw [← union_assoc, union_comm one, union_assoc, ih hrest]

/-- A union is told by its members: order and repetition do not matter. -/
theorem unions_eq_of_mem_iff {all all' : List Modifiers} (hmem : ∀ one, one ∈ all ↔ one ∈ all') :
    unions all = unions all' := by
  have hle : (unions all).union (unions all') = unions all' :=
    unions_union_of_forall fun one hone => union_unions_of_mem ((hmem one).1 hone)
  have hge : (unions all').union (unions all) = unions all :=
    unions_union_of_forall fun one hone => union_unions_of_mem ((hmem one).2 hone)
  rw [← hge, union_comm, hle]

/-- The names of modifiers have no blank at either end. -/
private theorem trimmed_of_ofName? {name : String} {held : Modifiers}
    (hname : ofName? name = some held) : Text.Trimmed name.toList ∧ name ≠ "" := by
  unfold ofName? at hname
  split_ifs at hname with hctrl halt hshift hmeta
  · rcases hctrl with rfl | rfl <;> decide
  · rcases halt with rfl | rfl | rfl <;> decide
  · rw [hshift]
    decide
  · rcases hmeta with rfl | rfl | rfl | rfl | rfl <;> decide

end Modifiers

namespace Chord

open Modifiers (ofName? unions)

/-! ## The rules -/

/-- The part of a text that is the key: a plus sign, or without one. -/
structure IsKey (key : List Char) : Prop where
  nonempty : key ≠ []
  plus : '+' ∈ key → key = ['+']

/-- How a text is cut into the parts before its key and the key. -/
inductive Cut : List Char → List (List Char) → List Char → Prop
  | alone {key : List Char} (hkey : IsKey key) : Cut key [] key
  | behind {parts : List (List Char)} {key : List Char} (hparts : parts ≠ [])
      (hfree : ∀ part ∈ parts, '+' ∉ part) (hkey : IsKey key) :
      Cut (['+'].intercalate parts ++ '+' :: key) parts key

/-- The part is a name or an alias of the modifier, with blanks around it. -/
def Names (part : List Char) (held : Modifiers) : Prop :=
  ∃ name : String, ofName? name = some held ∧ Text.Padded name.toList part

/-- What is wrong with a part that names no modifier. -/
inductive Fault (raw : String) (part : List Char) : ChordError → Prop
  | blank (hblank : ∀ c ∈ part, Text.isBlank c = true) : Fault raw part (.emptySegment raw)
  | unknown {name : String} (hname : name ≠ "") (htrimmed : Text.Trimmed name.toList)
      (hpart : Text.Padded name.toList part) (hunknown : ofName? name = none) :
      Fault raw part (.unknownModifier raw name)

/-- What is read: the text without the blanks around it, in lower case. -/
def lowered (raw : String) : List Char := Text.lowercase (Text.trim raw.toList)

/-- What a text is read as. -/
inductive Reading (raw : String) : Except ChordError Chord → Prop
  | empty (hempty : Text.trim raw.toList = []) : Reading raw (.error .empty)
  /-- Nothing follows the last plus sign. -/
  | dangling (hend : ['+'] <:+ lowered raw) (hpair : ¬ ['+', '+'] <:+ lowered raw)
      (hplus : lowered raw ≠ ['+']) : Reading raw (.error (.missingKey raw))
  /-- The first part that names no modifier tells what is wrong. -/
  | fault {good rest : List (List Char)} {bad key : List Char} {cause : ChordError}
      (hcut : Cut (lowered raw) (good ++ bad :: rest) key)
      (hgood : ∀ part ∈ good, ∃ held, Names part held) (hbad : Fault raw bad cause) :
      Reading raw (.error cause)
  /-- A modifier stands in the place of the key. -/
  | modifier {parts : List (List Char)} {key : List Char} (hcut : Cut (lowered raw) parts key)
      (hparts : ∀ part ∈ parts, ∃ held, Names part held) (hkey : ∃ held, Names key held) :
      Reading raw (.error (.missingKey raw))
  | chord {parts : List (List Char)} {all : List Modifiers} {key : List Char}
      (hcut : Cut (lowered raw) parts key) (hparts : List.Forall₂ Names parts all)
      (hkey : ∀ held, ¬ Names key held) :
      Reading raw (.ok ⟨unions all, canonicalKey (String.ofList (Text.trim key))⟩)

/-- The two ways of cutting differ in the order, the repetition and the aliases of modifiers, in
blanks around the parts and in the alias of a key at most. -/
structure Alike (parts : List (List Char)) (key : List Char) (parts' : List (List Char))
    (key' : List Char) : Prop where
  modifiers : ∀ held, (∃ part ∈ parts, Names part held) ↔ ∃ part ∈ parts', Names part held
  key : canonicalKey (String.ofList (Text.trim key)) =
    canonicalKey (String.ofList (Text.trim key'))

/-! ## The parts of a text that is cut -/

/-- The cut is the one that reading makes. -/
private theorem splitKey_of_cut {text : List Char} {parts : List (List Char)} {key : List Char}
    (hcut : Cut text parts key) : ∃ before, splitKey text = (before, key) ∧
      before.elim [] (List.splitOn '+') = parts ∧ key ≠ [] ∧ text ≠ [] := by
  cases hcut with
  | alone hkey =>
      exact ⟨none, splitKey_key hkey.nonempty hkey.plus, rfl, hkey.nonempty, hkey.nonempty⟩
  | behind hparts hfree hkey =>
      refine ⟨some _, splitKey_append _ hkey.nonempty hkey.plus, ?_, hkey.nonempty, by simp⟩
      rw [Option.elim_some, List.splitOn_intercalate '+' hfree hparts]

/-- What stands before a plus sign and a key is the parts of a cut. -/
private theorem cut_append (before : List Char) {key : List Char} (hkey : IsKey key) :
    Cut (before ++ '+' :: key) (List.splitOn '+' before) key := by
  have hjoin : ['+'].intercalate (List.splitOn '+' before) = before :=
    List.intercalate_splitOn '+'
  have hne : List.splitOn '+' before ≠ [] :=
    List.splitOn_ne_nil '+' before
  have hcut := Cut.behind hne (fun part hpart => Text.not_mem_of_mem_splitOn hpart) hkey
  rwa [hjoin] at hcut

/-- Every text can be cut, except for one that ends in a plus sign that closes a part. -/
private theorem exists_cut {text : List Char} (hne : text ≠ [])
    (hend : ['+'] <:+ text → ['+', '+'] <:+ text ∨ text = ['+']) :
    ∃ parts key, Cut text parts key := by
  have hplus : IsKey ['+'] := ⟨List.cons_ne_nil _ _, fun _ => rfl⟩
  cases hlast : Text.splitLast? '+' text with
  | none =>
      have hfree : '+' ∉ text := Text.splitLast?_eq_none_iff.1 hlast
      exact ⟨_, _, .alone ⟨hne, fun hmem => absurd hmem hfree⟩⟩
  | some halves =>
      obtain ⟨before, key⟩ := halves
      obtain ⟨rfl, hfree⟩ := Text.eq_of_splitLast?_eq_some hlast
      by_cases hkey : key = []
      · -- The text ends in a plus sign, which is then the key.
        subst hkey
        rcases hend (List.suffix_append before _) with ⟨start, hstart⟩ | halone
        · have hcut := cut_append start hplus
          rw [← hstart]
          exact ⟨_, _, hcut⟩
        · rw [halone]
          exact ⟨_, _, .alone hplus⟩
      · exact ⟨_, _, cut_append before ⟨hkey, fun hmem => absurd hmem hfree⟩⟩

theorem names_iff {part : List Char} {held : Modifiers} :
    Names part held ↔ ofName? (String.ofList (Text.trim part)) = some held := by
  constructor
  · rintro ⟨name, hname, hpadded⟩
    have htrim : Text.trim part = name.toList :=
      Text.trim_eq_iff.2 ⟨(Modifiers.trimmed_of_ofName? hname).1, hpadded⟩
    rw [htrim, String.ofList_toList, hname]
  · intro hname
    refine ⟨_, hname, ?_⟩
    rw [String.toList_ofList]
    exact (Text.trim_eq_iff.1 rfl).2

/-- A part names one modifier at most. -/
private theorem Names.unique {part : List Char} {held other : Modifiers} (hheld : Names part held)
    (hother : Names part other) : held = other :=
  Option.some.inj ((names_iff.1 hheld).symm.trans (names_iff.1 hother))

private theorem mem_of_names {parts : List (List Char)} {all : List Modifiers}
    (hparts : List.Forall₂ Names parts all) (held : Modifiers) :
    held ∈ all ↔ ∃ part ∈ parts, Names part held := by
  induction hparts with
  | nil => simp
  | cons hname _ ih =>
      rw [List.mem_cons, ih, List.exists_mem_cons_iff]
      constructor
      · rintro (rfl | hrest)
        · exact .inl hname
        · exact .inr hrest
      · rintro (hfirst | hrest)
        · exact .inl (hfirst.unique hname)
        · exact .inr hrest

private theorem exists_names_of_forall₂ {parts : List (List Char)} {all : List Modifiers}
    (hparts : List.Forall₂ Names parts all) : ∀ part ∈ parts, ∃ held, Names part held := by
  induction hparts with
  | nil => simp
  | cons hname _ ih => exact List.forall_mem_cons.2 ⟨⟨_, hname⟩, ih⟩

/-- A part names a modifier or has a fault. -/
private theorem fault_iff {raw : String} {part : List Char} {cause : ChordError} :
    Fault raw part cause ↔
      (Text.trim part = [] ∧ cause = .emptySegment raw) ∨
        (Text.trim part ≠ [] ∧ ofName? (String.ofList (Text.trim part)) = none ∧
          cause = .unknownModifier raw (String.ofList (Text.trim part))) := by
  constructor
  · rintro (hblank | @⟨name, hname, htrimmed, hpart, hunknown⟩)
    · have hnil : Text.trim part = [] :=
        Text.trim_eq_iff.2 ⟨by decide, part, [], by simp, by simpa using hblank⟩
      exact .inl ⟨hnil, rfl⟩
    · have htrim : Text.trim part = name.toList := Text.trim_eq_iff.2 ⟨htrimmed, hpart⟩
      rw [htrim, String.ofList_toList]
      exact .inr ⟨by simpa using hname, hunknown, rfl⟩
  · rintro (⟨hnil, rfl⟩ | ⟨hne, hunknown, rfl⟩)
    · exact .blank fun c hc => Text.isBlank_of_trim_eq_nil hnil hc
    · have hself := Text.trim_eq_iff.1 (rfl : Text.trim part = Text.trim part)
      refine .unknown (by simpa using hne) ?_ ?_ hunknown <;> rw [String.toList_ofList]
      · exact hself.1
      · exact hself.2

/-! ## Uniting the modifiers -/

private theorem unite_of_forall₂ (raw : String) {parts : List (List Char)} {all : List Modifiers}
    (hparts : List.Forall₂ Names parts all) (held : Modifiers) :
    unite raw held parts = .ok (held.union (unions all)) := by
  induction hparts generalizing held with
  | nil => rw [Modifiers.union_comm]; exact congrArg Except.ok (Modifiers.none_union held).symm
  | @cons part one rest all hname _ ih =>
      have hone : ofName? (String.ofList (Text.trim part)) = some one := names_iff.1 hname
      have hne : Text.trim part ≠ [] := by
        intro hnil
        rw [hnil] at hone
        exact (Modifiers.trimmed_of_ofName? hone).2 rfl
      rw [unite, if_neg (by simpa using hne)]
      simp only [hone, ih]
      exact congrArg Except.ok (Modifiers.union_assoc _ _ _)

/-- Uniting stops at the first part that has a fault. -/
private theorem unite_of_fault (raw : String) {good rest : List (List Char)} {bad : List Char}
    {cause : ChordError} (hgood : ∀ part ∈ good, ∃ held, Names part held)
    (hbad : Fault raw bad cause) (held : Modifiers) :
    unite raw held (good ++ bad :: rest) = .error cause := by
  induction good generalizing held with
  | nil =>
      rw [List.nil_append, unite]
      rcases fault_iff.1 hbad with ⟨hnil, rfl⟩ | ⟨hne, hunknown, rfl⟩
      · rw [if_pos (by simpa using hnil)]
      · rw [if_neg (by simpa using hne)]
        simp only [hunknown]
  | cons part good ih =>
      obtain ⟨⟨one, hname⟩, hgood⟩ := List.forall_mem_cons.1 hgood
      have hone : ofName? (String.ofList (Text.trim part)) = some one := names_iff.1 hname
      have hne : Text.trim part ≠ [] := by
        intro hnil
        rw [hnil] at hone
        exact (Modifiers.trimmed_of_ofName? hone).2 rfl
      rw [List.cons_append, unite, if_neg (by simpa using hne)]
      simp only [hone]
      exact ih hgood _

/-- All parts name modifiers, or there is a first that does not. -/
private theorem named_or_fault (raw : String) (parts : List (List Char)) :
    (∃ all, List.Forall₂ Names parts all) ∨
      ∃ good bad rest cause, parts = good ++ bad :: rest ∧
        (∀ part ∈ good, ∃ held, Names part held) ∧ Fault raw bad cause := by
  induction parts with
  | nil => exact .inl ⟨[], .nil⟩
  | cons part rest ih =>
      cases hname : ofName? (String.ofList (Text.trim part)) with
      | none =>
          refine .inr ⟨[], part, rest, ?_⟩
          by_cases hnil : Text.trim part = []
          · exact ⟨_, rfl, by simp, fault_iff.2 (.inl ⟨hnil, rfl⟩)⟩
          · exact ⟨_, rfl, by simp, fault_iff.2 (.inr ⟨hnil, hname, rfl⟩)⟩
      | some one =>
          have hone : Names part one := names_iff.2 hname
          rcases ih with ⟨all, hall⟩ | ⟨good, bad, tail, cause, rfl, hgood, hbad⟩
          · exact .inl ⟨one :: all, .cons hone hall⟩
          · exact .inr ⟨part :: good, bad, tail, cause, rfl,
              List.forall_mem_cons.2 ⟨⟨one, hone⟩, hgood⟩, hbad⟩

/-! ## The result -/

/-- What is left to do once a text is cut. -/
private theorem parse_of_cut {raw : String} {parts : List (List Char)} {key : List Char}
    (hcut : Cut (lowered raw) parts key) :
    parse raw = (unite raw Modifiers.none parts).bind fun modifiers =>
      if (ofName? (String.ofList (Text.trim key))).isSome then .error (.missingKey raw)
      else .ok ⟨modifiers, canonicalKey (String.ofList (Text.trim key))⟩ := by
  obtain ⟨before, hsplit, rfl, hkey, htext⟩ := splitKey_of_cut hcut
  unfold lowered at hsplit htext
  cases before with
  | none => simp [parse, hsplit, htext, hkey, unite, Except.bind]
  | some start =>
      simp only [parse, hsplit, List.isEmpty_iff, htext, hkey, if_false, Option.elim_some]
      cases unite raw Modifiers.none (List.splitOn '+' start) <;> rfl

private theorem parse_of_dangling {raw : String} (hend : ['+'] <:+ lowered raw)
    (hpair : ¬ ['+', '+'] <:+ lowered raw) (hplus : lowered raw ≠ ['+']) :
    parse raw = .error (.missingKey raw) := by
  obtain ⟨before, hbefore⟩ := hend
  have hlast : Text.splitLast? '+' (lowered raw) = some (before, []) := by
    rw [← hbefore]
    exact Text.splitLast?_append List.not_mem_nil before
  have hnone : Text.beforeEnding? ['+', '+'] (lowered raw) = none := by
    rw [Option.eq_none_iff_forall_ne_some]
    intro start hstart
    exact hpair ⟨start, (Text.beforeEnding?_eq_some_iff.1 hstart).symm⟩
  have hne : lowered raw ≠ [] := by
    rw [← hbefore]
    simp
  have hsplit : splitKey (lowered raw) = (some before, []) := by
    rw [splitKey, if_neg hplus, hnone, hlast]
  unfold lowered at hsplit hne
  simp [parse, hsplit, hne]

private theorem parse_of_reading {raw : String} {result : Except ChordError Chord}
    (hreading : Reading raw result) : parse raw = result := by
  cases hreading with
  | empty hempty => simp [parse, hempty, Text.lowercase, Text.lowerAfter]
  | dangling hend hpair hplus => exact parse_of_dangling hend hpair hplus
  | fault hcut hgood hbad =>
      rw [parse_of_cut hcut, unite_of_fault raw hgood hbad]
      rfl
  | @modifier parts key hcut hparts hkey =>
      obtain ⟨held, hheld⟩ := hkey
      rw [parse_of_cut hcut, names_iff.1 hheld]
      rcases named_or_fault raw parts with ⟨all, hall⟩ | ⟨good, bad, rest, cause, rfl, -, hbad⟩
      · rw [unite_of_forall₂ raw hall]
        rfl
      · -- Every part names a modifier here, so there is no first faulty one.
        obtain ⟨one, hone⟩ := hparts bad (by simp)
        rw [names_iff] at hone
        rcases fault_iff.1 hbad with ⟨hnil, -⟩ | ⟨-, hunknown, -⟩
        · rw [hnil] at hone
          exact absurd rfl (Modifiers.trimmed_of_ofName? hone).2
        · rw [hunknown] at hone
          cases hone
  | @chord parts all key hcut hparts hkey =>
      have hnone : ofName? (String.ofList (Text.trim key)) = none := by
        rw [Option.eq_none_iff_forall_ne_some]
        intro held hheld
        exact hkey held (names_iff.2 hheld)
      rw [parse_of_cut hcut, unite_of_forall₂ raw hparts, Modifiers.none_union, hnone]
      rfl

private theorem exists_reading (raw : String) : ∃ result, Reading raw result := by
  by_cases hempty : Text.trim raw.toList = []
  · exact ⟨_, .empty hempty⟩
  have hne : lowered raw ≠ [] := fun hnil => hempty (Text.lowercase_eq_nil_iff.1 hnil)
  by_cases hend : ['+'] <:+ lowered raw → ['+', '+'] <:+ lowered raw ∨ lowered raw = ['+']
  · obtain ⟨parts, key, hcut⟩ := exists_cut hne hend
    rcases named_or_fault raw parts with ⟨all, hall⟩ | ⟨good, bad, rest, cause, rfl, hgood, hbad⟩
    · by_cases hkey : ∃ held, Names key held
      · exact ⟨_, .modifier hcut (exists_names_of_forall₂ hall) hkey⟩
      · exact ⟨_, .chord hcut hall (not_exists.1 hkey)⟩
    · exact ⟨_, .fault hcut hgood hbad⟩
  · obtain ⟨hplus, hnot⟩ := Classical.not_imp.1 hend
    rw [not_or] at hnot
    exact ⟨_, .dangling hplus hnot.1 hnot.2⟩

theorem parse_eq_iff {raw : String} {result : Except ChordError Chord} :
    parse raw = result ↔ Reading raw result := by
  constructor
  · rintro rfl
    obtain ⟨result, hreading⟩ := exists_reading raw
    rwa [parse_of_reading hreading]
  · exact parse_of_reading

/-- A chord that is read from a text that is cut so has these modifiers and this key. -/
private theorem parse_eq_ok_of_cut {raw : String} {parts : List (List Char)} {key : List Char}
    {chord : Chord} (hcut : Cut (lowered raw) parts key) (hparse : parse raw = .ok chord) :
    ∃ all, List.Forall₂ Names parts all ∧
      chord = ⟨unions all, canonicalKey (String.ofList (Text.trim key))⟩ := by
  rw [parse_of_cut hcut] at hparse
  rcases named_or_fault raw parts with ⟨all, hall⟩ | ⟨good, bad, rest, cause, rfl, hgood, hbad⟩
  · rw [unite_of_forall₂ raw hall, Modifiers.none_union] at hparse
    refine ⟨all, hall, ?_⟩
    simp only [Except.bind] at hparse
    split at hparse
    · cases hparse
    · exact (Except.ok.inj hparse).symm
  · rw [unite_of_fault raw hgood hbad] at hparse
    cases hparse

/-- Every text is read as the grammar has it, and as nothing else.  So what two texts are read as
is the same if they differ only in ways in which one chord may be spelled. -/
theorem chords_spelled (raw : String) :
    (∀ result, parse raw = result ↔ Reading raw result) ∧
      ∀ raw' parts key parts' key', Cut (lowered raw) parts key →
        Cut (lowered raw') parts' key' → Alike parts key parts' key' →
          ∀ chord chord', parse raw = .ok chord → parse raw' = .ok chord' → chord = chord' := by
  refine ⟨fun result => parse_eq_iff, ?_⟩
  intro raw' parts key parts' key' hcut hcut' halike chord chord' hparse hparse'
  obtain ⟨all, hall, rfl⟩ := parse_eq_ok_of_cut hcut hparse
  obtain ⟨all', hall', rfl⟩ := parse_eq_ok_of_cut hcut' hparse'
  have hmem : ∀ one, one ∈ all ↔ one ∈ all' := by
    intro one
    rw [mem_of_names hall, mem_of_names hall']
    exact halike.modifiers one
  rw [Modifiers.unions_eq_of_mem_iff hmem, halike.key]

/-- Two spellings of one chord with the plus key. -/
theorem chords_spelled_plus :
    parse "Ctrl+ SHIFT +control++" = .ok ⟨⟨5⟩, "+"⟩ ∧
      Reading "Ctrl+ SHIFT +control++" (.ok ⟨⟨5⟩, "+"⟩) ∧
      ∀ chord, parse " shift+Ctrl ++" = .ok chord → (⟨⟨5⟩, "+"⟩ : Chord) = chord := by
  have hparse : parse "Ctrl+ SHIFT +control++" = .ok ⟨⟨5⟩, "+"⟩ := by decide +kernel
  have hkey : IsKey ['+'] := ⟨by decide, fun _ => rfl⟩
  have hcut : Cut (lowered "Ctrl+ SHIFT +control++")
      ["ctrl".toList, " shift ".toList, "control".toList] ['+'] := by
    have htext : lowered "Ctrl+ SHIFT +control++" = ['+'].intercalate
        ["ctrl".toList, " shift ".toList, "control".toList] ++ '+' :: ['+'] := by decide +kernel
    rw [htext]
    exact .behind (by decide) (by decide) hkey
  have hcut' : Cut (lowered " shift+Ctrl ++") ["shift".toList, "ctrl ".toList] ['+'] := by
    have htext : lowered " shift+Ctrl ++" =
        ['+'].intercalate ["shift".toList, "ctrl ".toList] ++ '+' :: ['+'] := by decide +kernel
    rw [htext]
    exact .behind (by decide) (by decide) hkey
  -- Both spellings hold control and shift down, one of them naming control twice.
  have halike : Alike ["ctrl".toList, " shift ".toList, "control".toList] ['+']
      ["shift".toList, "ctrl ".toList] ['+'] := by
    refine ⟨fun held => ?_, rfl⟩
    have hctrl : ofName? (String.ofList (Text.trim "ctrl".toList)) = some ⟨1⟩ := by decide
    have hshift : ofName? (String.ofList (Text.trim " shift ".toList)) = some ⟨4⟩ := by decide
    have hcontrol : ofName? (String.ofList (Text.trim "control".toList)) = some ⟨1⟩ := by decide
    have hshift' : ofName? (String.ofList (Text.trim "shift".toList)) = some ⟨4⟩ := by decide
    have hctrl' : ofName? (String.ofList (Text.trim "ctrl ".toList)) = some ⟨1⟩ := by decide
    simp only [List.exists_mem_cons_iff, List.not_mem_nil, false_and, exists_false, or_false,
      names_iff, hctrl, hshift, hcontrol, hshift', hctrl']
    tauto
  have hspelled := chords_spelled "Ctrl+ SHIFT +control++"
  exact ⟨hparse, (hspelled.1 _).1 hparse, fun chord hchord =>
    hspelled.2 _ _ _ _ _ hcut hcut' halike _ chord hparse hchord⟩

end Chord

end EditorShell
