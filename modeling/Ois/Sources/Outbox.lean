import Ois.Library.DateTime
import Ois.Library.Json

/-!
# The outbox of the sources

`infrastructure/source_gateway/outbox.py`. The event identifier is the primary key of the table. A
payload and a creation time are stored as texts, which read back as the payload with sorted keys
and as the creation time.
-/

namespace Ois.Sources

open Ois.Library

structure OutboxEvent where
  eventId : String
  tenantId : String
  workspaceId : String
  eventType : String
  aggregateId : String
  payload : Members
  createdAt : DateTime
  deriving DecidableEq, Repr

structure OutboxRow where
  event : OutboxEvent
  publishedAt : Option DateTime := none
  deriving DecidableEq, Repr

open OutboxRow

namespace OutboxRow

def Before (row other : OutboxRow) : Prop :=
  row.event.createdAt.isoformat < other.event.createdAt.isoformat ∨
    row.event.createdAt.isoformat = other.event.createdAt.isoformat ∧
      row.event.eventId ≤ other.event.eventId

instance : DecidableRel Before := fun _ _ => inferInstanceAs (Decidable (_ ∨ _ ∧ _))

def published (eventId : String) (now : DateTime) (row : OutboxRow) : OutboxRow :=
  if row.event.eventId = eventId then { row with publishedAt := some now } else row

@[simp] theorem published_event (eventId : String) (now : DateTime) (row : OutboxRow) :
    (row.published eventId now).event = row.event := by
  unfold published
  split_ifs <;> rfl

end OutboxRow

structure Outbox where
  rows : List OutboxRow := []
  distinct : (rows.map (·.event.eventId)).Nodup := by first | exact List.nodup_nil | decide
  deriving DecidableEq, Repr

namespace Outbox

def eventIds (outbox : Outbox) : List String := outbox.rows.map (·.event.eventId)

def rowOf (event : OutboxEvent) : OutboxRow :=
  { event := { event with payload := Json.sortMembers event.payload } }

theorem distinct_append {rows : List OutboxRow} {row : OutboxRow}
    (distinct : (rows.map (·.event.eventId)).Nodup)
    (fresh : row.event.eventId ∉ rows.map (·.event.eventId)) :
    ((rows ++ [row]).map (·.event.eventId)).Nodup :=
  nodup_map_concat distinct fresh

/-- `append(event)`. -/
def append (event : OutboxEvent) (outbox : Outbox) : Outbox × Bool :=
  if held : event.eventId ∈ outbox.eventIds then (outbox, false)
  else (⟨outbox.rows ++ [rowOf event], distinct_append outbox.distinct held⟩, true)

def limited (limit : Int) (rows : List OutboxRow) : List OutboxRow :=
  if limit < 0 then rows else rows.take limit.toNat

def waiting (outbox : Outbox) : List OutboxRow :=
  (outbox.rows.filter (·.publishedAt.isNone)).insertionSort OutboxRow.Before

/-- `pending(limit=limit)`. -/
def pending (limit : Int) (outbox : Outbox) : List OutboxEvent :=
  (limited limit outbox.waiting).map (·.event)

theorem event_ids_published (eventId : String) (now : DateTime) (rows : List OutboxRow) :
    ((rows.map (·.published eventId now)).map (·.event.eventId)) = rows.map (·.event.eventId) := by
  rw [List.map_map]
  apply List.map_congr_left
  intro row _
  rw [Function.comp, published_event]

/-- `mark_published(event_id)` at `now`. -/
def markPublished (eventId : String) (now : DateTime) (outbox : Outbox) : Outbox :=
  ⟨outbox.rows.map (·.published eventId now), by
    rw [event_ids_published]
    exact outbox.distinct⟩

theorem event_ids_mark_published (eventId : String) (now : DateTime) (outbox : Outbox) :
    (outbox.markPublished eventId now).eventIds = outbox.eventIds :=
  event_ids_published eventId now outbox.rows

/-- The event is in the outbox and waits to be published. -/
def Pending (eventId : String) (outbox : Outbox) : Prop :=
  ∃ row ∈ outbox.rows, row.event.eventId = eventId ∧ row.publishedAt = none

def Published (eventId : String) (outbox : Outbox) : Prop :=
  ∃ row ∈ outbox.rows, row.event.eventId = eventId ∧ row.publishedAt.isSome

instance (eventId : String) (outbox : Outbox) : Decidable (outbox.Pending eventId) :=
  inferInstanceAs (Decidable (∃ row ∈ outbox.rows, _))

instance (eventId : String) (outbox : Outbox) : Decidable (outbox.Published eventId) :=
  inferInstanceAs (Decidable (∃ row ∈ outbox.rows, _))

theorem mem_limited {limit : Int} {rows : List OutboxRow} {row : OutboxRow}
    (mem : row ∈ limited limit rows) : row ∈ rows := by
  unfold limited at mem
  split_ifs at mem with negative
  · exact mem
  · exact List.mem_of_mem_take mem

theorem limited_sublist (limit : Int) (rows : List OutboxRow) :
    (limited limit rows).Sublist rows := by
  unfold limited
  split_ifs with negative
  · exact List.Sublist.refl rows
  · exact List.take_sublist _ rows

variable (now : DateTime) {outbox : Outbox} {eventId other : String}

theorem mem_waiting {row : OutboxRow} :
    row ∈ outbox.waiting ↔ row ∈ outbox.rows ∧ row.publishedAt = none := by
  rw [waiting, List.mem_insertionSort, List.mem_filter, Option.isNone_iff_eq_none]

theorem pending_of_mem {limit : Int} {event : OutboxEvent} (mem : event ∈ outbox.pending limit) :
    outbox.Pending event.eventId := by
  obtain ⟨row, listed, rfl⟩ := List.mem_map.mp mem
  have waits := mem_waiting.mp (mem_limited listed)
  exact ⟨row, waits.1, rfl, waits.2⟩

theorem pending_distinct (limit : Int) (outbox : Outbox) :
    ((outbox.pending limit).map (·.eventId)).Nodup := by
  have whole : (outbox.waiting.map (·.event.eventId)).Nodup := by
    have filtered := outbox.distinct.sublist
      (List.filter_sublist.map (·.event.eventId) :
        ((outbox.rows.filter (·.publishedAt.isNone)).map _).Sublist _)
    exact ((List.perm_insertionSort OutboxRow.Before _).map _).nodup_iff.mpr filtered
  rw [pending, List.map_map]
  exact whole.sublist ((limited_sublist limit outbox.waiting).map _)

theorem not_pending_of_published {eventId : String} (published : outbox.Published eventId) :
    ¬outbox.Pending eventId := by
  rintro ⟨row, mem, named, waits⟩
  obtain ⟨other, present, same, done⟩ := published
  have equal : row = other :=
    List.inj_on_of_nodup_map outbox.distinct mem present (named.trans same.symm)
  rw [← equal, waits] at done
  simp at done

theorem published_of_mark {eventId : String} (waits : outbox.Pending eventId) :
    (outbox.markPublished eventId now).Published eventId := by
  obtain ⟨row, mem, named, _⟩ := waits
  apply Exists.intro (row.published eventId now)
  apply And.intro (List.mem_map_of_mem mem)
  rw [published_event]
  exact ⟨named, by simp [published, named]⟩

theorem published_mark {now : DateTime}
    (published : (outbox.markPublished eventId now).Published other) :
    other = eventId ∨ outbox.Published other := by
  obtain ⟨row, mem, named, done⟩ := published
  obtain ⟨before, present, rfl⟩ := List.mem_map.mp mem
  rw [published_event] at named
  by_cases same : before.event.eventId = eventId
  · exact Or.inl (named.symm.trans same)
  · rw [published, if_neg same] at done
    exact Or.inr ⟨before, present, named, done⟩

theorem published_mark_of_published (published : outbox.Published other) :
    (outbox.markPublished eventId now).Published other := by
  obtain ⟨row, mem, named, done⟩ := published
  apply Exists.intro (row.published eventId now)
  apply And.intro (List.mem_map_of_mem mem)
  rw [published_event]
  apply And.intro named
  unfold published
  split_ifs with same
  · rfl
  · exact done

theorem pending_mark_of_other (waits : outbox.Pending eventId) (unlike : eventId ≠ other) :
    (outbox.markPublished other now).Pending eventId := by
  obtain ⟨row, mem, named, unmarked⟩ := waits
  apply Exists.intro (row.published other now)
  apply And.intro (List.mem_map_of_mem mem)
  rw [published, if_neg (named ▸ unlike)]
  exact ⟨named, unmarked⟩

theorem published_append {eventId : String} (event : OutboxEvent) :
    (outbox.append event).1.Published eventId ↔ outbox.Published eventId := by
  unfold append
  split_ifs with held
  · rfl
  · simp [Published, rowOf]

end Outbox

end Ois.Sources
