import EditorShell.Session.State

/-!
# The lives of widgets in the journal

A widget lives from an accepted mount to the next unmount, and an id can have many lives.  What
happens to a handle in one life must not leak into another one.  So the history of a handle is told
by the part of the journal since the latest accepted mount, provided that no unmount has come since
(`SinceMount`).

The journal has the newest entry first, so what is later stands on the left.
-/

namespace EditorShell

variable {κ : Type}

/-- Whether an entry begins or ends a life of a widget. -/
def Entry.bounds (id : NodeId) : Entry κ → Bool
  | .sent (.mount node) true => node.id == id
  | .withdrawn other => other == id
  | _ => false

/-- The id of the widget whose mount has been accepted. -/
def Entry.mountedId? : Entry κ → Option NodeId
  | .sent (.mount node) true => some node.id
  | _ => none

/-- No two mounted ids share a slot. -/
def SlotsDistinct (journal : List (Entry κ)) : Prop :=
  ∀ id ∈ journal.filterMap Entry.mountedId?, ∀ id' ∈ journal.filterMap Entry.mountedId?,
    slotName id = slotName id' → id = id'

theorem SlotsDistinct.of_append {noted journal : List (Entry κ)}
    (distinct : SlotsDistinct (noted ++ journal)) : SlotsDistinct journal := by
  intro id hid id' hid'
  rw [SlotsDistinct, List.filterMap_append] at distinct
  exact distinct id (List.mem_append_right _ hid) id' (List.mem_append_right _ hid')

/-- The latest life of a widget has not ended, and `since` is what has happened in it. -/
def SinceMount (id : NodeId) (journal since : List (Entry κ)) : Prop :=
  (∃ node earlier, node.id = id ∧ journal = since ++ .sent (.mount node) true :: earlier) ∧
    ∀ entry ∈ since, entry.bounds id = false

namespace SinceMount

variable {id : NodeId} {journal since noted : List (Entry κ)}

theorem mount {node : HostNode} (hid : node.id = id) (journal : List (Entry κ)) :
    SinceMount id (.sent (.mount node) true :: journal) [] :=
  ⟨⟨node, journal, hid, rfl⟩, by simp⟩

/-- A life goes on. -/
theorem append (life : SinceMount id journal since)
    (hnoted : ∀ entry ∈ noted, entry.bounds id = false) :
    SinceMount id (noted ++ journal) (noted ++ since) := by
  obtain ⟨⟨node, earlier, hid, rfl⟩, hsince⟩ := life
  refine ⟨⟨node, earlier, hid, by rw [List.append_assoc]⟩, fun entry hentry => ?_⟩
  rcases List.mem_append.1 hentry with hentry | hentry
  · exact hnoted entry hentry
  · exact hsince entry hentry

theorem mem_mountedIds (life : SinceMount id journal since) :
    id ∈ journal.filterMap Entry.mountedId? := by
  obtain ⟨⟨node, earlier, rfl, rfl⟩, -⟩ := life
  refine List.mem_filterMap.2 ⟨.sent (.mount node) true, ?_, rfl⟩
  exact List.mem_append_right _ (List.mem_cons_self ..)

/-- A life has begun before some entries or among them. -/
theorem of_append (life : SinceMount id (noted ++ journal) since) :
    SinceMount id noted since ∨
      ∃ since', since = noted ++ since' ∧ SinceMount id journal since' := by
  obtain ⟨⟨node, earlier, hid, heq⟩, hsince⟩ := life
  rcases List.append_eq_append_iff.1 heq with ⟨since', rfl, rfl⟩ | ⟨rest, rfl, htail⟩
  · refine .inr ⟨since', rfl, ⟨node, earlier, hid, rfl⟩, fun entry hentry => ?_⟩
    exact hsince entry (List.mem_append_right _ hentry)
  · cases rest with
    | nil =>
        refine .inr ⟨[], by simp, ⟨node, earlier, hid, ?_⟩, by simp⟩
        exact htail.symm
    | cons first rest =>
        obtain ⟨rfl, rfl⟩ := List.cons.inj htail
        exact .inl ⟨⟨node, rest, hid, rfl⟩, hsince⟩

/-- Entries that bound no life of a widget leave open whether it lives. -/
theorem exists_append_iff (hnoted : ∀ entry ∈ noted, entry.bounds id = false) :
    (∃ since, SinceMount id (noted ++ journal) since) ↔ ∃ since, SinceMount id journal since := by
  constructor
  · rintro ⟨since, life⟩
    rcases life.of_append with ⟨⟨node, earlier, hid, rfl⟩, -⟩ | ⟨since', -, life'⟩
    · have hbounds := hnoted (.sent (.mount node) true) (by simp)
      simp [Entry.bounds, hid] at hbounds
    · exact ⟨since', life'⟩
  · rintro ⟨since, life⟩
    exact ⟨noted ++ since, life.append hnoted⟩

/-- An unmount ends a life. -/
theorem not_withdrawn : ¬ SinceMount id (.withdrawn id :: journal) since := by
  rintro ⟨⟨node, earlier, hid, heq⟩, hsince⟩
  cases since with
  | nil => cases heq
  | cons first rest =>
      obtain ⟨rfl, -⟩ := List.cons.inj heq
      simpa [Entry.bounds] using hsince (.withdrawn id) (List.mem_cons_self ..)

end SinceMount

/-- What the journal tells when the host hands over a handle and a job is to pick it up. -/
def handover (id : NodeId) (task : TaskId) (handle : WidgetHandle) : List (Entry κ) :=
  [.scheduled ⟨task, .start, .resolveHandle id⟩, .sent (.requestHandle id) true,
    .published id handle]

/-- The host has left a handle in answer to a request in the present life of a widget, and `task` is
to pick it up. -/
def Requested (id : NodeId) (task : TaskId) (handle : WidgetHandle)
    (journal : List (Entry κ)) : Prop :=
  ∃ since, SinceMount id journal since ∧ handover id task handle <:+: since

/-- The host has left a handle in answer to a request in the present life of a widget, and it has
been picked up. -/
def Obtained (id : NodeId) (handle : WidgetHandle) (journal : List (Entry κ)) : Prop :=
  ∃ later task since, SinceMount id journal (later ++ .ran task :: since) ∧
    handover id task handle <:+: since

section

variable {id : NodeId} {task : TaskId} {handle : WidgetHandle} {journal noted : List (Entry κ)}

theorem Requested.append (requested : Requested id task handle journal)
    (hnoted : ∀ entry ∈ noted, entry.bounds id = false) :
    Requested id task handle (noted ++ journal) := by
  obtain ⟨since, life, hhandover⟩ := requested
  refine ⟨noted ++ since, life.append hnoted, ?_⟩
  exact hhandover.trans (List.suffix_append noted since).isInfix

theorem Requested.mem_mountedIds (requested : Requested id task handle journal) :
    id ∈ journal.filterMap Entry.mountedId? := by
  obtain ⟨since, life, -⟩ := requested
  exact life.mem_mountedIds

/-- A handle is obtained when the job that is to pick it up runs. -/
theorem Requested.ran (requested : Requested id task handle journal) :
    Obtained id handle (.ran task :: journal) := by
  obtain ⟨since, life, hhandover⟩ := requested
  have hran : ∀ entry ∈ [Entry.ran (κ := κ) task], entry.bounds id = false := by simp [Entry.bounds]
  exact ⟨[], task, since, life.append hran, hhandover⟩

theorem Obtained.append (obtained : Obtained id handle journal)
    (hnoted : ∀ entry ∈ noted, entry.bounds id = false) :
    Obtained id handle (noted ++ journal) := by
  obtain ⟨later, task, since, life, hhandover⟩ := obtained
  refine ⟨noted ++ later, task, since, ?_, hhandover⟩
  rw [List.append_assoc]
  exact life.append hnoted

theorem Obtained.mem_published (obtained : Obtained id handle journal) :
    .published id handle ∈ journal := by
  obtain ⟨later, task, since, ⟨⟨node, earlier, -, rfl⟩, -⟩, hhandover⟩ := obtained
  have hmem : .published id handle ∈ since := hhandover.subset (by simp [handover])
  simp [hmem]

/-- A handle of a widget that was not mounted before has been obtained altogether since then. -/
theorem Obtained.of_append (obtained : Obtained id handle (noted ++ journal))
    (hdead : ∀ since, ¬ SinceMount id journal since) : Obtained id handle noted := by
  obtain ⟨later, task, since, life, hhandover⟩ := obtained
  rcases life.of_append with life | ⟨since', -, life⟩
  · exact ⟨later, task, since, life, hhandover⟩
  · exact absurd life (hdead since')

end

end EditorShell
