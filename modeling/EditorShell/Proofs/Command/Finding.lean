import EditorShell.Proofs.Run.Views
import EditorShell.Proofs.Sorting
import EditorShell.Proofs.Text.Lowercase

/-!
# Finding commands

A finder asks a registry for the commands that match a query.  Matching goes by scores: every text
of a descriptor scores by how well it fits, and the scores are added up.  What comes of it is plain
searching all the same (`commands_found`): a query matches where it occurs in one of the texts,
without regard to case.

## Strategy

Every fit is worth something (`fit_pos_iff`), so a sum of fits is positive when one of the texts
fits (`score_pos_iff`).  The answer is the list of registered commands, filtered and sorted.  Two
commands of equal score differ in their names, since the names of the descriptors are the names of
the table (`CommandRegistry.Filed`); the order of the answer is therefore strict.
-/

namespace EditorShell

variable {B κ S : Type}

namespace CommandDescriptor

/-! ## How well a text fits -/

/-- A better fit is worth no less, and every fit is worth something. -/
structure Worth.Graded (worth : Worth) : Prop where
  inside_pos : 0 < worth.inside
  inside_le : worth.inside ≤ worth.start
  start_le : worth.start ≤ worth.whole

theorem fit_pos_iff {worth : Worth} (graded : worth.Graded) {query : List Char} {text : String} :
    0 < fit worth query text ↔ query <:+: Text.lowercase text.toList := by
  have ⟨hinside, hstart, hwhole⟩ := graded
  unfold fit
  dsimp only
  split
  · rename_i heq
    exact iff_of_true (by omega) (heq ▸ List.infix_rfl)
  · split
    · rename_i hprefix
      exact iff_of_true (by omega) (List.isPrefixOf_iff_prefix.1 hprefix).isInfix
    · split
      · rename_i hoccurs
        exact iff_of_true hinside (Text.occursIn_iff.1 hoccurs)
      · rename_i hoccurs
        exact iff_of_false (Nat.lt_irrefl 0) fun hinfix => hoccurs (Text.occursIn_iff.2 hinfix)

theorem fit_le {worth : Worth} (graded : worth.Graded) (query : List Char) (text : String) :
    fit worth query text ≤ worth.whole := by
  have ⟨hinside, hstart, hwhole⟩ := graded
  unfold fit
  dsimp only
  repeat' split
  all_goals omega

theorem graded_title : Worth.Graded ⟨1000, 500, 100⟩ := ⟨by decide, by decide, by decide⟩

theorem graded_name : Worth.Graded ⟨800, 400, 80⟩ := ⟨by decide, by decide, by decide⟩

theorem graded_tag : Worth.Graded ⟨300, 150, 50⟩ := ⟨by decide, by decide, by decide⟩

theorem graded_description : Worth.Graded ⟨10, 10, 10⟩ := ⟨by decide, by decide, by decide⟩

/-- Tags are worth something together if one of them fits. -/
theorem tags_pos_iff {worth : Worth} (graded : worth.Graded) {query : List Char}
    {tags : List String} :
    0 < tags.foldr (fun tag total => fit worth query tag + total) 0 ↔
      ∃ tag ∈ tags, query <:+: Text.lowercase tag.toList := by
  induction tags with
  | nil => simp
  | cons tag rest ih =>
      rw [List.foldr_cons, Nat.add_pos_iff_pos_or_pos, fit_pos_iff graded, ih]
      simp

theorem tags_le {worth : Worth} (graded : worth.Graded) (query : List Char) (tags : List String) :
    tags.foldr (fun tag total => fit worth query tag + total) 0 ≤ worth.whole * tags.length := by
  induction tags with
  | nil => exact Nat.zero_le _
  | cons tag rest ih =>
      rw [List.foldr_cons, List.length_cons, Nat.mul_succ, Nat.add_comm]
      exact Nat.add_le_add ih (fit_le graded query tag)

/-! ## What matches -/

variable (descriptor : CommandDescriptor) (query : String)

/-- The texts that are searched. -/
def texts : List String :=
  descriptor.title :: descriptor.name :: descriptor.description :: descriptor.tags

/-- Without blanks around it the query occurs in one of the texts, in any case. -/
def Mentions : Prop :=
  ∃ text ∈ descriptor.texts,
    Text.lowercase (Text.trim query.toList) <:+: Text.lowercase text.toList

variable {descriptor query}

theorem normalQuery_eq_nil_iff : normalQuery query = [] ↔ Text.trim query.toList = [] :=
  Text.lowercase_eq_nil_iff

/-- What an enabled command scores for a query that is not blank. -/
theorem score_eq (henabled : descriptor.enabled = true) (hquery : Text.trim query.toList ≠ []) :
    descriptor.score query =
      max (fit ⟨1000, 500, 100⟩ (normalQuery query) descriptor.title)
          (fit ⟨800, 400, 80⟩ (normalQuery query) descriptor.name) +
        descriptor.tags.foldr (fun tag total => fit ⟨300, 150, 50⟩ (normalQuery query) tag + total)
          0 +
        fit ⟨10, 10, 10⟩ (normalQuery query) descriptor.description := by
  have hnormal : (normalQuery query).isEmpty = false :=
    List.isEmpty_eq_false_iff.2 fun hnil => hquery (normalQuery_eq_nil_iff.1 hnil)
  simp only [score, henabled, hnormal, Bool.not_true, Bool.false_eq_true, if_false]

theorem score_eq_zero (hblank : Text.trim query.toList = []) : descriptor.score query = 0 := by
  simp [score, normalQuery_eq_nil_iff.2 hblank]

/-- An enabled command scores if it mentions a query that is not blank. -/
theorem score_pos_iff :
    0 < descriptor.score query ↔
      descriptor.enabled = true ∧ Text.trim query.toList ≠ [] ∧ descriptor.Mentions query := by
  by_cases hblank : Text.trim query.toList = []
  · simp [score_eq_zero hblank, hblank]
  · cases henabled : descriptor.enabled with
    | false => simp [score, henabled]
    | true =>
        have hsum : ∀ title name tags description : Nat,
            0 < max title name + tags + description ↔
              0 < title ∨ 0 < name ∨ 0 < description ∨ 0 < tags := by omega
        rw [score_eq henabled hblank, hsum, fit_pos_iff graded_title, fit_pos_iff graded_name,
          fit_pos_iff graded_description, tags_pos_iff graded_tag]
        simp [hblank, Mentions, texts, normalQuery]

theorem isMatch_iff :
    descriptor.isMatch query = true ↔ descriptor.enabled = true ∧
      (Text.trim query.toList = [] ∨ descriptor.Mentions query) := by
  unfold isMatch
  rw [Bool.and_eq_true, Bool.or_eq_true, List.isEmpty_iff, decide_eq_true_iff, score_pos_iff]
  by_cases hblank : Text.trim query.toList = [] <;> simp [hblank]

theorem score_pos_iff_isMatch :
    0 < descriptor.score query ↔ Text.trim query.toList ≠ [] ∧ descriptor.isMatch query = true := by
  rw [score_pos_iff, isMatch_iff]
  by_cases hblank : Text.trim query.toList = [] <;> simp [hblank]

theorem score_le (descriptor : CommandDescriptor) (query : String) :
    descriptor.score query ≤ 1010 + 300 * descriptor.tags.length := by
  by_cases hscore : 0 < descriptor.score query
  · obtain ⟨henabled, hquery, -⟩ := score_pos_iff.1 hscore
    have htitle := fit_le graded_title (normalQuery query) descriptor.title
    have hname := fit_le graded_name (normalQuery query) descriptor.name
    have htags := tags_le graded_tag (normalQuery query) descriptor.tags
    have hdescription := fit_le graded_description (normalQuery query) descriptor.description
    rw [score_eq henabled hquery]
    dsimp only at htitle hname htags hdescription
    omega
  · omega

/-! ## The order of an answer -/

/-- A command stands before another one in the answer to a query: it scores more, or as much and
its name comes first. -/
def Outranks (query : String) (first second : CommandDescriptor) : Prop :=
  second.score query < first.score query ∨
    first.score query = second.score query ∧ first.name < second.name

/-- Nothing scores for a blank query. -/
theorem Outranks.name_lt {first second : CommandDescriptor}
    (houtranks : Outranks query first second) (hblank : Text.trim query.toList = []) :
    first.name < second.name := by
  rcases houtranks with hmore | ⟨-, hname⟩
  · simp [score_eq_zero hblank] at hmore
  · exact hname

end CommandDescriptor

namespace CommandRegistry

open CommandDescriptor

/-! ## The order of an answer -/

theorem ranksBefore_iff {query : String} {first second : CommandDescriptor} :
    ranksBefore query first second = true ↔ second.score query < first.score query ∨
      first.score query = second.score query ∧ first.name ≤ second.name := by
  simp [ranksBefore]

theorem ranksBefore_total (query : String) (first second : CommandDescriptor) :
    ranksBefore query first second = true ∨ ranksBefore query second first = true := by
  simp only [ranksBefore_iff]
  rcases Nat.lt_trichotomy (first.score query) (second.score query) with hless | hequal | hmore
  · exact .inr (.inl hless)
  · exact (String.le_total first.name second.name).imp (fun hle => .inr ⟨hequal, hle⟩)
      fun hle => .inr ⟨hequal.symm, hle⟩
  · exact .inl (.inl hmore)

theorem ranksBefore_trans (query : String) (first second third : CommandDescriptor)
    (hfirst : ranksBefore query first second = true)
    (hsecond : ranksBefore query second third = true) : ranksBefore query first third = true := by
  rw [ranksBefore_iff] at hfirst hsecond ⊢
  rcases hfirst with hmore | ⟨hequal, hname⟩ <;> rcases hsecond with hmore' | ⟨hequal', hname'⟩
  · exact .inl (hmore'.trans hmore)
  · exact .inl (hequal' ▸ hmore)
  · exact .inl (hequal ▸ hmore')
  · exact .inr ⟨hequal.trans hequal', String.le_trans hname hname'⟩

/-- Commands of different names never come level. -/
theorem outranks_of_ranksBefore {query : String} {first second : CommandDescriptor}
    (hranks : ranksBefore query first second = true) (hname : first.name ≠ second.name) :
    Outranks query first second := by
  rcases ranksBefore_iff.1 hranks with hmore | ⟨hequal, hle⟩
  · exact .inl hmore
  · exact .inr ⟨hequal, String.not_le.1 fun hge => hname (String.le_antisymm hle hge)⟩

/-! ## Registered commands -/

/-- Commands stand under the names in their descriptors. -/
def Filed (registry : CommandRegistry B) : Prop :=
  ∀ ⦃name command⦄, registry.get? name = some command → command.descriptor.name = name

theorem Filed.changes {registry later : CommandRegistry B} (filed : registry.Filed)
    (changes : registry.Changes later) : later.Filed := by
  intro name command hfound
  cases changes with
  | newAction body => exact filed hfound
  | insert command =>
      rw [get?_insert] at hfound
      split at hfound
      · rename_i heq
        rw [← Option.some.inj hfound, heq]
      · exact filed hfound
  | unregister other =>
      rw [get?_unregister] at hfound
      split at hfound
      · cases hfound
      · exact filed hfound
  | unregisterAction other action =>
      rw [get?_unregisterAction] at hfound
      split at hfound
      · cases hfound
      · exact filed hfound
  -- Only the flag changes, and the name was the right one before.
  | setEnabled other enabled =>
      rw [get?_setEnabled] at hfound
      split at hfound
      · rename_i heq
        obtain ⟨before, hbefore, rfl⟩ := Option.map_eq_some_iff.1 hfound
        have hname : before.descriptor.name = other := filed hbefore
        exact hname.trans heq.symm
      · exact filed hfound

theorem Reached.filed {registry : CommandRegistry B} (reached : registry.Reached) :
    registry.Filed := by
  induction reached with
  | empty => exact fun _ _ hfound => nomatch hfound
  | change _ changes filed => exact filed.changes changes

/-- The descriptor is that of a registered command. -/
def Registers (registry : CommandRegistry B) (descriptor : CommandDescriptor) : Prop :=
  ∃ command, registry.get? descriptor.name = some command ∧ command.descriptor = descriptor

theorem Filed.mem_descriptors_iff {registry : CommandRegistry B} (filed : registry.Filed)
    {descriptor : CommandDescriptor} :
    descriptor ∈ registry.descriptors ↔ registry.Registers descriptor := by
  simp only [descriptors, Table.values, List.map_map, List.mem_map, Prod.exists]
  constructor
  · rintro ⟨name, command, hmem, rfl⟩
    have hfound : registry.get? name = some command := Table.mem_entries_iff.1 hmem
    exact ⟨command, (congrArg registry.get? (filed hfound)).trans hfound, rfl⟩
  · rintro ⟨command, hfound, hdescriptor⟩
    exact ⟨descriptor.name, command, Table.mem_entries_iff.2 hfound, hdescriptor⟩

theorem Filed.map_name_descriptors {registry : CommandRegistry B} (filed : registry.Filed) :
    registry.descriptors.map CommandDescriptor.name = registry.commands.names := by
  simp only [descriptors, Table.values, List.map_map, Table.names]
  refine List.map_congr_left fun entry hmem => ?_
  exact filed (Table.mem_entries_iff.1 hmem)

/-- What a registry answers to a query. -/
structure Answers (registry : CommandRegistry B) (query : String) : Prop where
  /-- No command stands in the answer twice. -/
  nodup : ((registry.find query).map CommandDescriptor.name).Nodup
  /-- The enabled commands that mention the query are found, and all of them for a blank query. -/
  mem_iff : ∀ descriptor, descriptor ∈ registry.find query ↔ registry.Registers descriptor ∧
    descriptor.enabled = true ∧ (Text.trim query.toList = [] ∨ descriptor.Mentions query)
  /-- Those that score more come first, and by name those that score the same. -/
  ranked : (registry.find query).Pairwise (Outranks query)
  /-- The commands found for a blank query come by name. -/
  named : Text.trim query.toList = [] →
    (registry.find query).Pairwise fun first second => first.name < second.name
  /-- A registered command is found if it matches. -/
  isMatch_iff : ∀ descriptor, registry.Registers descriptor →
    (descriptor.isMatch query = true ↔ descriptor ∈ registry.find query)
  /-- It scores if it matches and the query is not blank. -/
  score_iff : ∀ descriptor, registry.Registers descriptor →
    (0 < descriptor.score query ↔ Text.trim query.toList ≠ [] ∧ descriptor.isMatch query = true)
  /-- The score of a command with less than ten million tags fits in a word of 32 bits. -/
  score_lt : ∀ descriptor, registry.Registers descriptor → descriptor.tags.length < 10000000 →
    descriptor.score query < Nat.pow 2 32

/-! ## The answer to a query -/

theorem nodup_find {registry : CommandRegistry B} (filed : registry.Filed) (query : String) :
    ((registry.find query).map CommandDescriptor.name).Nodup := by
  have hnames : (registry.descriptors.map CommandDescriptor.name).Nodup :=
    filed.map_name_descriptors ▸ registry.commands.nodup_names
  have hkept : ((registry.descriptors.filter (·.isMatch query)).map CommandDescriptor.name).Nodup :=
    hnames.sublist (List.filter_sublist.map _)
  exact ((Sorting.sort_perm _).map _).nodup_iff.2 hkept

theorem mem_find_iff {registry : CommandRegistry B} (filed : registry.Filed) {query : String}
    {descriptor : CommandDescriptor} :
    descriptor ∈ registry.find query ↔
      registry.Registers descriptor ∧ descriptor.isMatch query = true := by
  rw [find, Sorting.mem_sort, List.mem_filter, filed.mem_descriptors_iff]

theorem pairwise_find {registry : CommandRegistry B} (filed : registry.Filed) (query : String) :
    (registry.find query).Pairwise (Outranks query) := by
  have hsorted : (registry.find query).Pairwise fun first second =>
      ranksBefore query first second = true :=
    Sorting.pairwise_sort (ranksBefore_total query) (ranksBefore_trans query) _
  have hnames : (registry.find query).Pairwise fun first second => first.name ≠ second.name :=
    List.pairwise_map.1 (nodup_find filed query)
  exact hsorted.imp₂ (fun _ _ hranks hname => outranks_of_ranksBefore hranks hname) hnames

end CommandRegistry

/-! ## The registry of a session -/

namespace Finding

/-- The registry of the session is one that came of an empty one. -/
def Registered (_ : Unit) (session : Session κ S) : Prop := session.commands.Reached

/-- So is the registry at every moment. -/
def RegisteredAt (_ : Unit) (moment : Moment κ S) : Prop := moment.session.commands.Reached

theorem law : ViewLaw Session.commands (fun _ => false) (Registered (κ := κ) (S := S))
    RegisteredAt where
  congr hview _ reached := (congrArg CommandRegistry.Reached hview).mpr reached
  note _ reached := reached
  moment _ reached := reached

theorem sees : (Upholding (Registered (κ := κ) (S := S)) RegisteredAt).Sees Session.commands
    fun _ => false := law.sees fun _ _ => rfl

theorem ordinary : (Upholding (Registered (κ := κ) (S := S)) RegisteredAt).Ordinary :=
  sees.ordinary fun _ _ _ _ _ => ⟨rfl, fun _ => rfl⟩

theorem commands : (Upholding (Registered (κ := κ) (S := S)) RegisteredAt).Commands := by
  have note : ∀ entry : Entry κ, entry.isPress = true →
      (Act.note (S := S) entry).MadeOf (Upholding Registered RegisteredAt) :=
    sees.note_of (fun _ hpress => Entry.isCall_eq_false (.inr (.inl hpress))) fun _ _ => rfl
  have keys : ∀ f : Session κ S → KeyDispatcher,
      (Act.change fun session => { session with keys := f session }).MadeOf
        (Upholding Registered RegisteredAt) :=
    fun _ => sees.aside (fun _ => rfl) fun _ => rfl
  refine .of_bindings ordinary.toActing (fun f changes => ?_) (fun f _ => keys f)
    (Act.Class.Commands.press_of_change ordinary.toActing note keys)
  exact .part (.change fun {_ session} (reached : session.commands.Reached) =>
    reached.change (changes session))

/-- Commands change in the ways of a registry only. -/
theorem governs : Governs (κ := κ) (S := S) (fun _ => True) (fun _ => True) Registered
    RegisteredAt where
  covers := by
    have hidden : ∀ call : Call κ, call.Hidden fun _ => false := fun _ => ⟨rfl, fun _ => rfl⟩
    have panels := sees.panels (ordinary (κ := κ) (S := S)) rfl fun _ _ => rfl
    have core : (Upholding (Registered (κ := κ) (S := S)) RegisteredAt).Core fun _ => True :=
      sees.core ordinary (fun _ => hidden _) (fun _ _ => hidden _) (fun _ _ => rfl) fun _ _ => rfl
    exact .of_core panels core (sees.outer fun _ _ _ _ => rfl)
      (sees.events (fun _ _ _ => ⟨rfl, fun _ => rfl⟩) (fun _ _ => rfl) fun _ _ => rfl) commands
      (sees.extensions commands.toRegistering (fun _ _ => hidden _) fun _ _ => rfl)
      (sees.shell panels core (fun _ _ => rfl) fun _ _ _ => rfl)
  store _ reached := reached
  callback _ _ reached := ⟨(), trivial, reached⟩

end Finding

/-- In every session on the way of a run, also while a callback runs, the registry is one that came
of an empty one. -/
theorem Session.reached_commands {sink : ChordSink} {host : Host} {app : S} {session : Session κ S}
    (hpasses : (Session.fresh sink host app).Passes (fun _ => True) session) :
    session.commands.Reached := by
  have fresh : Finding.Registered () (Session.fresh (κ := κ) sink host app) := .empty
  exact Finding.governs.passes (fun _ reached => reached) (fun _ reached => reached)
    ⟨(), trivial, fresh⟩ hpasses

/-! ## What is found -/

/-- A registry with a command whose title starts with a word, one whose title has it inside, and a
disabled one of that name. -/
def CommandRegistry.finderRegistry : CommandRegistry Unit :=
  let command (name title : String) (enabled : Bool) : Command Unit :=
    ⟨{ CommandDescriptor.named name with title := title, enabled := enabled }, ⟨0, ()⟩⟩
  ((CommandRegistry.empty.insert (command "file.open" "Open File" true)).insert
    (command "panel.show" "Show Open Panels" true)).insert (command "open" "Open" false)

/-- Whatever was registered, replaced, disabled and removed before, a query finds the commands that
are enabled and mention it, each of them once and the best first. -/
theorem commands_found {registry : CommandRegistry B} (reached : registry.Reached)
    (query : String) : registry.Answers query := by
  have filed := reached.filed
  have ranked := CommandRegistry.pairwise_find filed query
  exact
    { nodup := CommandRegistry.nodup_find filed query
      mem_iff := fun descriptor => by
        rw [CommandRegistry.mem_find_iff filed, CommandDescriptor.isMatch_iff]
      ranked := ranked
      named := fun hblank => ranked.imp fun houtranks => houtranks.name_lt hblank
      isMatch_iff := fun descriptor registers => by
        rw [CommandRegistry.mem_find_iff filed, and_iff_right registers]
      score_iff := fun descriptor _ => CommandDescriptor.score_pos_iff_isMatch
      score_lt := fun descriptor _ htags => by
        have hscore := descriptor.score_le query
        have hword : Nat.pow 2 32 = 4294967296 := rfl
        omega }

theorem commands_found_disabled :
    CommandRegistry.finderRegistry.Reached ∧
      CommandRegistry.finderRegistry.Answers " OPEN " ∧
      (CommandRegistry.finderRegistry.find " OPEN ").map CommandDescriptor.name =
        ["file.open", "panel.show"] := by
  have reached : CommandRegistry.finderRegistry.Reached :=
    ((CommandRegistry.Reached.empty.change (.insert _)).change (.insert _)).change (.insert _)
  exact ⟨reached, commands_found reached " OPEN ", by decide +kernel⟩

end EditorShell
