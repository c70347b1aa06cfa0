import EditorShell.Chord
import EditorShell.Proofs.Text.Lowercase

/-!
# The canonical text of a chord

Reading a chord and writing it settles: what has been read once is in a form (`Chord.Normal`) on
which every step of reading acts as the identity.  Its text holds no capital and no blank at
either end, its key is neither an alias nor a modifier and has no plus sign unless it is one, and
its modifiers are named ones.  So the canonical text is read as the chord it was written for.
-/

namespace EditorShell

/-! ## Modifiers -/

namespace Modifiers

theorem eq_none_of_isEmpty {held : Modifiers} (hempty : held.isEmpty = true) : held = none := by
  obtain ⟨bits⟩ := held
  exact congrArg Modifiers.mk (eq_of_beq hempty)

/-- All that is held has a name. -/
def Named (held : Modifiers) : Prop := held.bits.toNat < 16

instance (held : Modifiers) : Decidable held.Named := inferInstanceAs (Decidable (_ < _))

theorem Named.union {first second : Modifiers} (hfirst : first.Named) (hsecond : second.Named) :
    (first.union second).Named := by
  rw [Named, Modifiers.union, UInt8.toNat_or]
  exact Nat.or_lt_two_pow (n := 4) hfirst hsecond

theorem named_of_ofName? {name : String} {held : Modifiers} (hname : ofName? name = some held) :
    held.Named := by
  unfold ofName? at hname
  split_ifs at hname <;> simp only [Option.some.injEq] at hname <;> subst hname <;> decide

/-- Every named modifier is found by its name, which is not blank at either end. -/
private theorem ofName?_of_mem_named : ∀ entry ∈ named,
    ofName? entry.2 = some entry.1 ∧ entry.2 ≠ "" ∧ Text.Trimmed entry.2.toList ∧
      '+' ∉ entry.2.toList ∧ ∀ c ∈ entry.2.toList, Text.Settled c := by
  have hall : ∀ entry ∈ named, ofName? entry.2 = some entry.1 ∧ entry.2 ≠ "" ∧
      Text.Trimmed entry.2.toList ∧ '+' ∉ entry.2.toList ∧
        entry.2.toList.all (fun c => decide (Text.Settled c)) = true := by decide
  simpa only [List.all_eq_true, decide_eq_true_eq] using hall

/-- The named modifiers held, with their names. -/
def heldEntries (held : Modifiers) : List (Modifiers × String) :=
  named.filter fun entry => held.containsAll entry.1

/-- What is held is the union of the named modifiers that are held. -/
private theorem foldl_union_eq_self {held : Modifiers} (hheld : held.Named) :
    held.heldEntries.foldl (fun united entry => united.union entry.1) none = held := by
  have hall : ∀ code < 16, (heldEntries ⟨UInt8.ofNat code⟩).foldl
      (fun united entry => united.union entry.1) none = ⟨UInt8.ofNat code⟩ := by decide
  obtain ⟨bits⟩ := held
  simpa using hall bits.toNat hheld

theorem names_ne_nil {held : Modifiers} (hheld : held.Named) (hsome : held.isEmpty = false) :
    held.names ≠ [] := by
  intro hnames
  have hself := foldl_union_eq_self hheld
  rw [heldEntries, List.map_eq_nil_iff.1 hnames, List.foldl_nil] at hself
  rw [← hself] at hsome
  cases hsome

/-- The names of what is held stand in one order. -/
theorem names_eq_filter (held : Modifiers) : held.names =
    ["ctrl", "alt", "shift", "meta"].filter fun name => (ofName? name).any held.containsAll := by
  have hall : ["ctrl", "alt", "shift", "meta"] = named.map Prod.snd := rfl
  rw [hall, List.filter_map, names]
  refine congrArg (List.map Prod.snd) (List.filter_congr fun entry hentry => ?_)
  rw [Function.comp_apply, (ofName?_of_mem_named entry hentry).1, Option.any_some]

/-- Each name of a modifier held is the name of one of the four. -/
private theorem exists_of_mem_names {held : Modifiers} {name : String}
    (hname : name ∈ held.names) : ∃ entry ∈ named, entry.2 = name := by
  obtain ⟨entry, hentry, rfl⟩ := List.mem_map.1 hname
  exact ⟨entry, (List.mem_filter.1 hentry).1, rfl⟩

/-- The text of modifiers falls apart into their names. -/
private theorem splitOn_text {held : Modifiers} (hnames : held.names ≠ []) :
    List.splitOn '+' held.text.toList = held.heldEntries.map fun entry => entry.2.toList := by
  have hparts : ∀ part ∈ held.names.map String.toList, '+' ∉ part := by
    intro part hpart
    obtain ⟨name, hname, rfl⟩ := List.mem_map.1 hpart
    obtain ⟨entry, hentry, rfl⟩ := exists_of_mem_names hname
    exact (ofName?_of_mem_named entry hentry).2.2.2.1
  calc List.splitOn '+' held.text.toList
      = (['+'].intercalate (held.names.map String.toList)).splitOn '+' := by
        rw [text, String.toList_intercalate]
        rfl
    _ = held.names.map String.toList :=
        List.splitOn_intercalate '+' hparts (by simpa using hnames)
    _ = held.heldEntries.map fun entry => entry.2.toList := List.map_map

end Modifiers

namespace Chord

open Modifiers (ofName? named)

/-! ## The parts of a text -/

/-- What a key has to be for reading to leave it as it is. -/
structure CanonicalKey (key : String) : Prop where
  nonempty : key ≠ ""
  trimmed : Text.trim key.toList = key.toList
  noModifier : ofName? key = none
  plus : '+' ∈ key.toList → key = "+"
  noAlias : key ∉ ["escape", "return", "del", "spacebar"]

theorem unite_named (raw : String) {entries : List (Modifiers × String)}
    (hentries : ∀ entry ∈ entries, entry ∈ named) (held : Modifiers) :
    unite raw held (entries.map fun entry => entry.2.toList) =
      .ok (entries.foldl (fun united entry => united.union entry.1) held) := by
  induction entries generalizing held with
  | nil => rfl
  | cons entry rest ih =>
      obtain ⟨hname, hne, htrimmed, -⟩ :=
        Modifiers.ofName?_of_mem_named entry (hentries entry List.mem_cons_self)
      simp only [List.map_cons, unite, Text.trim_eq_self htrimmed, List.isEmpty_iff,
        String.toList_eq_nil_iff, hne, if_false, String.ofList_toList, hname, List.foldl_cons]
      exact ih (fun other hother => hentries other (List.mem_cons_of_mem _ hother)) _

/-- Uniting starts and ends with named modifiers. -/
theorem named_of_unite {raw : String} {held united : Modifiers} (hheld : held.Named)
    {parts : List (List Char)} (hunite : unite raw held parts = .ok united) : united.Named := by
  induction parts generalizing held with
  | nil =>
      cases hunite
      exact hheld
  | cons part rest ih =>
      simp only [unite] at hunite
      split at hunite
      · cases hunite
      · split at hunite
        · cases hunite
        · rename_i modifier hname
          exact ih (hheld.union (Modifiers.named_of_ofName? hname)) hunite

/-- The key's part is a plus sign, or a part of the text without one. -/
theorem key_of_splitKey {text key : List Char} {before : Option (List Char)}
    (hsplit : splitKey text = (before, key)) : key = ['+'] ∨ ('+' ∉ key ∧ key <:+ text) := by
  unfold splitKey at hsplit
  split at hsplit
  · exact .inl (Prod.ext_iff.1 hsplit).2.symm
  · split at hsplit
    · exact .inl (Prod.ext_iff.1 hsplit).2.symm
    · split at hsplit
      · rename_i start ending hlast
        obtain ⟨htext, hplus⟩ := Text.eq_of_splitLast?_eq_some hlast
        obtain ⟨-, rfl⟩ := Prod.ext_iff.1 hsplit
        exact .inr ⟨hplus, start ++ ['+'], by simp [htext]⟩
      · rename_i hnone
        obtain ⟨-, rfl⟩ := Prod.ext_iff.1 hsplit
        exact .inr ⟨Text.splitLast?_eq_none_iff.1 hnone, List.suffix_rfl⟩

private theorem beforeEnding?_eq_none (before : List Char) {key : List Char} (hne : key ≠ [])
    (hplus : '+' ∉ key) : Text.beforeEnding? ['+', '+'] (before ++ key) = none := by
  rw [Option.eq_none_iff_forall_ne_some]
  intro start hstart
  have hend := congrArg List.getLast? (Text.beforeEnding?_eq_some_iff.1 hstart)
  rw [List.getLast?_append, Option.or_of_isSome (List.getLast?_isSome.2 hne)] at hend
  exact hplus (List.mem_of_mem_getLast? (by simpa using hend))

/-- A key alone is split into nothing and itself. -/
theorem splitKey_key {key : List Char} (hne : key ≠ []) (hplus : '+' ∈ key → key = ['+']) :
    splitKey key = (none, key) := by
  unfold splitKey
  split
  · rename_i hkey
    rw [hkey]
  · rename_i hkey
    have hnot : '+' ∉ key := fun hmem => hkey (hplus hmem)
    rw [show Text.beforeEnding? ['+', '+'] key = none from beforeEnding?_eq_none [] hne hnot,
      Text.splitLast?_eq_none_iff.2 hnot]

/-- A key behind a plus sign is split off there. -/
theorem splitKey_append (before : List Char) {key : List Char} (hne : key ≠ [])
    (hplus : '+' ∈ key → key = ['+']) : splitKey (before ++ '+' :: key) = (some before, key) := by
  have hlong : before ++ '+' :: key ≠ ['+'] := by
    intro htext
    have hlength := congrArg List.length htext
    have := List.length_pos_iff.2 hne
    simp only [List.length_append, List.length_cons, List.length_nil] at hlength
    omega
  rw [splitKey, if_neg hlong]
  by_cases hmem : '+' ∈ key
  · rw [hplus hmem, Text.beforeEnding?_eq_some_iff.2 rfl]
  · have hnone : Text.beforeEnding? ['+', '+'] (before ++ '+' :: key) = none := by
      have hend := beforeEnding?_eq_none (before ++ ['+']) hne hmem
      rwa [List.append_assoc] at hend
    rw [hnone, Text.splitLast?_append hmem]

/-! ## What is read -/

/-- A chord as reading yields it. -/
structure Normal (chord : Chord) : Prop where
  named : chord.modifiers.Named
  key : CanonicalKey chord.key
  settled : ∀ c ∈ chord.key.toList, Text.Settled c

theorem canonicalKey_cases (key : String) :
    (canonicalKey key = key ∧ key ∉ ["escape", "return", "del", "spacebar"]) ∨
      canonicalKey key ∈ ["esc", "enter", "delete", "space"] := by
  unfold canonicalKey
  split_ifs <;> simp_all

/-- The names that stand for aliases are canonical. -/
private theorem canonicalKey_aliased : ∀ key ∈ ["esc", "enter", "delete", "space"],
    (key ≠ "" ∧ Text.trim key.toList = key.toList ∧ ofName? key = none ∧ '+' ∉ key.toList ∧
      key ∉ ["escape", "return", "del", "spacebar"]) ∧ ∀ c ∈ key.toList, Text.Settled c := by
  have hall : ∀ key ∈ ["esc", "enter", "delete", "space"],
      (key ≠ "" ∧ Text.trim key.toList = key.toList ∧ ofName? key = none ∧ '+' ∉ key.toList ∧
        key ∉ ["escape", "return", "del", "spacebar"]) ∧
          key.toList.all (fun c => decide (Text.Settled c)) = true := by decide
  simpa only [List.all_eq_true, decide_eq_true_eq] using hall

/-- The steps of a reading that succeeds. -/
theorem parse_eq_ok_iff {raw : String} {chord : Chord} :
    parse raw = .ok chord ↔
      ∃ before key, splitKey (Text.lowercase (Text.trim raw.toList)) = (before, key) ∧ key ≠ [] ∧
        unite raw Modifiers.none (before.elim [] (List.splitOn '+')) = .ok chord.modifiers ∧
        ofName? (String.ofList (Text.trim key)) = none ∧
        chord.key = canonicalKey (String.ofList (Text.trim key)) := by
  unfold parse
  simp only
  -- The reader has four ways to fail, and each condition on the right rules one of them out.
  constructor
  · intro hparse
    generalize hsplit : splitKey (Text.lowercase (Text.trim raw.toList)) = split at hparse
    obtain ⟨before, key⟩ := split
    simp only at hparse
    split at hparse
    · cases hparse
    · split at hparse
      · cases hparse
      · rename_i hkey
        split at hparse
        · cases hparse
        · rename_i modifiers hunite
          split at hparse
          · cases hparse
          · rename_i hname
            obtain rfl := Except.ok.inj hparse
            have hne : key ≠ [] := fun hnil => hkey (List.isEmpty_iff.2 hnil)
            have hunite : unite raw Modifiers.none (before.elim [] (List.splitOn '+')) =
                .ok modifiers := by
              cases before <;> exact hunite
            exact ⟨before, key, rfl, hne, hunite, Option.not_isSome_iff_eq_none.1 hname, rfl⟩
  · rintro ⟨before, key, hsplit, hne, hunite, hname, hkey⟩
    have hlowered : Text.lowercase (Text.trim raw.toList) ≠ [] := by
      intro hnil
      rw [hnil] at hsplit
      exact hne (Prod.ext_iff.1 hsplit).2.symm
    obtain ⟨modifiers, name⟩ := chord
    simp only at hunite hkey
    cases before with
    | none =>
        rw [Option.elim_none] at hunite
        simp [hsplit, hlowered, hne, hunite, hname, hkey]
    | some start =>
        rw [Option.elim_some] at hunite
        simp [hsplit, hlowered, hne, hunite, hname, hkey]

theorem normal_of_parse {raw : String} {chord : Chord} (hparse : parse raw = .ok chord) :
    chord.Normal := by
  obtain ⟨before, key, hsplit, hne, hunite, hname, hkey⟩ := parse_eq_ok_iff.1 hparse
  have hnamed : chord.modifiers.Named := named_of_unite (by decide) hunite
  have hpart := key_of_splitKey hsplit
  -- The part of the key is in lower case, and its last character is not blank.
  have hsettled : ∀ c ∈ key, Text.Settled c := by
    intro c hc
    rcases hpart with rfl | ⟨-, hsuffix⟩
    · rw [List.mem_singleton.1 hc]
      decide
    · exact Text.settled_of_mem_lowercase (hsuffix.subset hc)
  have htrim : Text.trim key ≠ [] := by
    intro hnil
    rcases hpart with rfl | ⟨-, hsuffix⟩
    · exact absurd hnil (by decide)
    · obtain ⟨start, hstart⟩ := hsuffix
      obtain ⟨c, hc⟩ := Option.isSome_iff_exists.1 (List.getLast?_isSome.2 hne)
      have hlast : Text.isBlank c = false := by
        refine Text.isBlank_getLast_lowercase (Text.trimmed_trim raw.toList).2 c ?_
        rw [← hstart, List.getLast?_append, hc]
        rfl
      rw [Text.isBlank_of_trim_eq_nil hnil (List.mem_of_mem_getLast? hc)] at hlast
      cases hlast
  rcases canonicalKey_cases (String.ofList (Text.trim key)) with ⟨hself, halias⟩ | halias
  · rw [hself] at hkey
    refine ⟨hnamed, ⟨?_, ?_, ?_, ?_, ?_⟩, ?_⟩ <;> rw [hkey]
    · simpa using htrim
    · simpa using Text.trim_eq_self (Text.trimmed_trim key)
    · exact hname
    · intro hplus
      rw [String.toList_ofList] at hplus
      rcases hpart with rfl | ⟨hnot, -⟩
      · rfl
      · exact absurd (Text.mem_of_mem_trim hplus) hnot
    · exact halias
    · intro c hc
      rw [String.toList_ofList] at hc
      exact hsettled c (Text.mem_of_mem_trim hc)
  · obtain ⟨⟨hempty, htrimmed, hnone, hplus, halias⟩, hlower⟩ :=
      canonicalKey_aliased _ (hkey ▸ halias)
    exact ⟨hnamed, ⟨hempty, htrimmed, hnone, fun hmem => absurd hmem hplus, halias⟩, hlower⟩

/-! ## The canonical text -/

/-- The text is the names of the modifiers and the key, joined by plus signs. -/
theorem text_eq_intercalate {chord : Chord} (hnamed : chord.modifiers.Named) :
    chord.text = String.intercalate "+" (chord.modifiers.names ++ [chord.key]) := by
  unfold text
  split
  · rename_i hempty
    have hnone : chord.modifiers = Modifiers.none := Modifiers.eq_none_of_isEmpty hempty
    have hnames : Modifiers.none.names = [] := by decide
    rw [hnone, hnames, List.nil_append, String.intercalate_singleton]
  · rename_i hsome
    rw [String.intercalate_append_of_ne_nil (Modifiers.names_ne_nil hnamed (by simpa using hsome))
      (List.cons_ne_nil _ _), String.intercalate_singleton]
    rfl

/-- Behind the names of the modifiers and one byte stands the key, whatever it is. -/
theorem cutKey?_text (chord : Chord) : cutKey? chord.modifiers chord.text = some chord.key := by
  unfold cutKey? text
  split
  · rfl
  · have hsize : chord.modifiers.text.utf8ByteSize + 1 =
        (String.ofList (chord.modifiers.text ++ "+").toList).utf8ByteSize := by
      rw [String.ofList_toList, String.utf8ByteSize_append]
      rfl
    rw [String.toList_append (t := chord.key), hsize, Text.behindBytes?_append, Option.map_some,
      String.ofList_toList]

/-- What is joined from trimmed parts in lower case is trimmed and in lower case. -/
private theorem joined (parts : List (List Char)) (hne : parts ≠ [])
    (hparts : ∀ part ∈ parts, part ≠ [] ∧ Text.Trimmed part ∧ ∀ c ∈ part, Text.Settled c) :
    ['+'].intercalate parts ≠ [] ∧ Text.Trimmed (['+'].intercalate parts) ∧
      ∀ c ∈ ['+'].intercalate parts, Text.Settled c := by
  induction parts with
  | nil => exact absurd rfl hne
  | cons part rest ih =>
      obtain ⟨hpart, htrimmed, hsettled⟩ := hparts part List.mem_cons_self
      rcases rest with _ | ⟨next, rest⟩
      · rw [List.intercalate_singleton]
        exact ⟨hpart, htrimmed, hsettled⟩
      · -- Parts that are trimmed meet at a plus sign, so no blank comes to stand at an end.
        obtain ⟨hrest, htrimmed', hsettled'⟩ := ih (List.cons_ne_nil _ _)
          fun other hother => hparts other (List.mem_cons_of_mem _ hother)
        have hplus : Text.Trimmed ['+'] := by decide
        have hstart : Text.Trimmed (part ++ ['+']) :=
          htrimmed.append hpart hplus (List.cons_ne_nil _ _)
        rw [List.intercalate_cons_cons]
        refine ⟨by simp, hstart.append (by simp) htrimmed' hrest, ?_⟩
        intro c hc
        rcases List.mem_append.1 hc with hc | hc
        · rcases List.mem_append.1 hc with hc | hc
          · exact hsettled c hc
          · rw [List.mem_singleton.1 hc]
            decide
        · exact hsettled' c hc

/-- Lower case and trimming leave the canonical text alone. -/
private theorem lowercase_trim_text {chord : Chord} (hnormal : chord.Normal) :
    Text.lowercase (Text.trim chord.text.toList) = chord.text.toList := by
  have htext : chord.text.toList =
      ['+'].intercalate ((chord.modifiers.names ++ [chord.key]).map String.toList) := by
    rw [text_eq_intercalate hnormal.named, String.toList_intercalate]
    rfl
  have hparts : ∀ part ∈ (chord.modifiers.names ++ [chord.key]).map String.toList,
      part ≠ [] ∧ Text.Trimmed part ∧ ∀ c ∈ part, Text.Settled c := by
    intro part hpart
    obtain ⟨name, hname, rfl⟩ := List.mem_map.1 hpart
    rcases List.mem_append.1 hname with hname | hname
    · obtain ⟨entry, hentry, rfl⟩ := Modifiers.exists_of_mem_names hname
      obtain ⟨-, hne, htrimmed, -, hsettled⟩ := Modifiers.ofName?_of_mem_named entry hentry
      exact ⟨by simpa using hne, htrimmed, hsettled⟩
    · obtain rfl := List.mem_singleton.1 hname
      exact ⟨by simpa using hnormal.key.nonempty,
        Text.trim_eq_self_iff.1 hnormal.key.trimmed, hnormal.settled⟩
  obtain ⟨-, htrimmed, hsettled⟩ := joined _ (by simp) hparts
  rw [htext, Text.trim_eq_self htrimmed, Text.lowercase_eq_self hsettled]

/-- Reading the canonical text of a chord in normal form yields that chord. -/
theorem parse_text {chord : Chord} (hnormal : chord.Normal) : parse chord.text = .ok chord := by
  have hne : chord.key.toList ≠ [] := by simpa using hnormal.key.nonempty
  have hplus : '+' ∈ chord.key.toList → chord.key.toList = ['+'] := by
    intro hmem
    rw [hnormal.key.plus hmem]
    rfl
  have hkey : String.ofList (Text.trim chord.key.toList) = chord.key := by
    rw [hnormal.key.trimmed, String.ofList_toList]
  have hself : chord.key = canonicalKey chord.key := by
    have halias := hnormal.key.noAlias
    simp only [List.mem_cons, List.not_mem_nil, or_false, not_or] at halias
    simp [canonicalKey, halias]
  rw [parse_eq_ok_iff, lowercase_trim_text hnormal]
  -- Without modifiers the text is the key alone, and it has no plus sign to be cut at.
  cases hsome : chord.modifiers.isEmpty with
  | true =>
      have htext : chord.text = chord.key := if_pos hsome
      rw [htext, Modifiers.eq_none_of_isEmpty hsome]
      refine ⟨none, chord.key.toList, splitKey_key hne hplus, hne, rfl, ?_, ?_⟩ <;> rw [hkey]
      · exact hnormal.key.noModifier
      · exact hself
  | false =>
      have htext : chord.text.toList = chord.modifiers.text.toList ++ '+' :: chord.key.toList := by
        rw [text, hsome, if_neg Bool.false_ne_true, String.toList_append, String.toList_append,
          List.append_assoc]
        rfl
      have hnames := Modifiers.names_ne_nil hnormal.named hsome
      have hunite : unite chord.text Modifiers.none
          (List.splitOn '+' chord.modifiers.text.toList) = .ok chord.modifiers := by
        rw [Modifiers.splitOn_text hnames, unite_named,
          Modifiers.foldl_union_eq_self hnormal.named]
        intro entry hentry
        exact (List.mem_filter.1 hentry).1
      have hsplit := splitKey_append chord.modifiers.text.toList hne hplus
      rw [htext]
      refine ⟨_, _, hsplit, hne, hunite, ?_, ?_⟩ <;> rw [hkey]
      · exact hnormal.key.noModifier
      · exact hself

theorem parse?_eq_some_iff {raw : String} {chord : Chord} :
    parse? raw = some chord ↔ parse raw = .ok chord := by
  unfold parse?
  cases parse raw <;> simp [Except.toOption]

/-- Reading a text, writing the chord and reading again comes to the same chord. -/
theorem parse?_text_of_parse? {raw : String} {chord : Chord} (hparse : parse? raw = some chord) :
    parse? chord.text = some chord :=
  parse?_eq_some_iff.2 (parse_text (normal_of_parse (parse?_eq_some_iff.1 hparse)))

/-- Whatever a chord was spelled like, its canonical text is read as that chord, so that chords
that were read are told apart by their texts.  The key is cut out of the text without fail and is
canonical, and the text is the key alone, or the names of the modifiers in their order and the key,
joined by plus signs. -/
theorem canonical_of_parse {raw : String} {chord : Chord} (hparse : parse raw = .ok chord) :
    parse chord.text = .ok chord ∧
      (∀ raw' chord', parse raw' = .ok chord' → (chord = chord' ↔ chord.text = chord'.text)) ∧
      cutKey? chord.modifiers chord.text = some chord.key ∧
      CanonicalKey chord.key ∧ (chord.hasModifiers = false → chord.text = chord.key) ∧
      chord.text = String.intercalate "+"
        ((["ctrl", "alt", "shift", "meta"].filter fun name =>
          (ofName? name).any chord.modifiers.containsAll) ++ [chord.key]) := by
  have hnormal := normal_of_parse hparse
  have hself := parse_text hnormal
  have htold : ∀ raw' chord', parse raw' = .ok chord' →
      (chord = chord' ↔ chord.text = chord'.text) := by
    intro raw' chord' hparse'
    constructor
    · rintro rfl
      rfl
    · intro htext
      have hself' := parse_text (normal_of_parse hparse')
      rw [← htext, hself] at hself'
      exact Except.ok.inj hself'
  have halone : chord.hasModifiers = false → chord.text = chord.key := by
    intro hnone
    exact if_pos (by simpa [hasModifiers] using hnone)
  have htext := text_eq_intercalate hnormal.named
  rw [Modifiers.names_eq_filter] at htext
  exact ⟨hself, htold, cutKey?_text chord, hnormal.key, halone, htext⟩

/-- A spelling with capitals, blanks and an alias. -/
theorem canonical_of_parse_spelled :
    parse " Shift + Control+ESCAPE" = .ok ⟨⟨5⟩, "esc"⟩ ∧
      parse "ctrl+shift+esc" = .ok ⟨⟨5⟩, "esc"⟩ ∧ CanonicalKey "esc" := by
  have hparse : parse " Shift + Control+ESCAPE" = .ok ⟨⟨5⟩, "esc"⟩ := by decide +kernel
  have hcanonical := canonical_of_parse hparse
  exact ⟨hparse, hcanonical.1, hcanonical.2.2.2.1⟩

end Chord

end EditorShell
