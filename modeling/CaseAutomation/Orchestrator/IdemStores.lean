import CaseAutomation.Framework.Refinement
import CaseAutomation.Orchestrator.Reference

/-! # The Two Idempotency Stores Compared

    Both stores implement one interface; what it promises is a slot for each key, which is
    free, reserved or recorded. The Redis store answers every sequence of calls
    as the slots do. The in-memory store takes a recorded `{}` for its own placeholder
    of a reservation, so it answers like the other exactly when no such record is looked up.
-/

namespace CaseAutomation.Orchestrator

open Framework

/-- A call of the `IdempotencyStore` protocol. -/
inductive IdemOp where
  | reserve (idem_key : String)
  | record (idem_key : String) (output : JsonObj)
  | lookup (idem_key : String)

/-- What a call returns. -/
inductive IdemAnswer where
  | claimed (b : Bool)
  | recorded
  | found (output : Option JsonObj)

/-- One call on a store. -/
def IdemStore.call (json : JsonText) : IdemOp → IdemStore → IdemAnswer × IdemStore
  | .reserve key, s => (.claimed (s.reserve key).1, (s.reserve key).2)
  | .record key o, s => (.recorded, s.record json key o)
  | .lookup key, s => (.found (s.lookup json key), s)

/-! ## The abstract store -/

/-- The state of a key. -/
inductive Slot where
  | free
  | reserved
  | recorded (output : JsonObj)

/-- A slot for each key. -/
abbrev Slots : Type := String → Slot

namespace Slots

/-- No key has been used. -/
def empty : Slots := fun _ => .free

def put (slots : Slots) (key : String) (slot : Slot) : Slots :=
  fun k => if k = key then slot else slots k

@[simp] theorem put_self (slots : Slots) (key : String) (slot : Slot) :
    slots.put key slot key = slot := by
  simp [put]

theorem put_ne (slots : Slots) {key k : String} (slot : Slot) (h : k ≠ key) :
    slots.put key slot k = slots k := by
  simp [put, h]

/-- What the protocol promises. -/
def call : IdemOp → Slots → IdemAnswer × Slots
  | .reserve key, slots =>
    match slots key with
    | .free => (.claimed true, slots.put key .reserved)
    | .reserved => (.claimed false, slots)
    | .recorded _ => (.claimed false, slots)
  | .record key o, slots => (.recorded, slots.put key (.recorded o))
  | .lookup key, slots =>
    match slots key with
    | .free => (.found none, slots)
    | .reserved => (.found none, slots)
    | .recorded o => (.found (some o), slots)

end Slots

/-! ## How the stores encode the slots -/

/-- What the in-memory store holds for a slot: `{}` stands for a reservation. -/
def Slot.in_memory : Slot → Option JsonObj
  | .free => none
  | .reserved => some []
  | .recorded o => some o

/-- What Redis holds for a slot. -/
def Slot.redis (json : JsonText) : Slot → Option String
  | .free => none
  | .reserved => some "reserved"
  | .recorded o => some (json.dumps o)

/-- The store holds these slots. -/
inductive Holds (json : JsonText) (slots : Slots) : IdemStore → Prop where
  | in_memory {store : Dict String JsonObj} (h : ∀ key, store.get? key = (slots key).in_memory) :
    Holds json slots (.in_memory store)
  | redis {db : Dict String String}
    (h : ∀ key, db.get? (redis_key key) = (slots key).redis json) : Holds json slots (.redis db)

theorem holds_in_memory_empty (json : JsonText) : Holds json Slots.empty (.in_memory ∅) :=
  .in_memory fun _ => rfl

theorem holds_redis_empty (json : JsonText) : Holds json Slots.empty (.redis ∅) :=
  .redis fun _ => rfl

variable {json : JsonText} {slots : Slots}

/-- Writing the code of a slot under a key. -/
theorem in_memory_put {store : Dict String JsonObj}
    (h : ∀ key, store.get? key = (slots key).in_memory) {key : String} {slot : Slot} {v : JsonObj}
    (hv : slot.in_memory = some v) (k : String) :
    (store.set key v).get? k = (slots.put key slot k).in_memory := by
  by_cases hk : k = key
  · rw [hk, Dict.get?_set_self, Slots.put_self, hv]
  · rw [Dict.get?_set_ne _ _ hk, Slots.put_ne _ _ hk, h]

theorem redis_put {db : Dict String String}
    (h : ∀ key, db.get? (redis_key key) = (slots key).redis json) {key : String} {slot : Slot}
    {v : String} (hv : slot.redis json = some v) (k : String) :
    (db.set (redis_key key) v).get? (redis_key k) = (slots.put key slot k).redis json := by
  by_cases hk : k = key
  · rw [hk, Dict.get?_set_self, Slots.put_self, hv]
  · have hkey : redis_key k ≠ redis_key key := fun he => hk (IdemStore.redis_key_injective he)
    rw [Dict.get?_set_ne _ _ hkey, Slots.put_ne _ _ hk, h]

/-- Every call keeps the encoding. -/
theorem holds_call (json : JsonText) :
    Simulation (Slots.call) (IdemStore.call json) (Holds json) := by
  refine ⟨fun {slots s} h op => ?_⟩
  cases h with
  | in_memory h =>
    cases op with
    | reserve key =>
      have hkey := h key
      simp only [Slots.call, IdemStore.call, IdemStore.reserve]
      cases hslot : slots key with
      | free =>
        rw [hslot, Slot.in_memory] at hkey
        simp only [hkey]
        exact .in_memory (in_memory_put h rfl)
      | reserved =>
        rw [hslot, Slot.in_memory] at hkey
        simp only [hkey]
        exact .in_memory h
      | recorded o =>
        rw [hslot, Slot.in_memory] at hkey
        simp only [hkey]
        exact .in_memory h
    | record key o => exact .in_memory (in_memory_put h rfl)
    | lookup key =>
      simp only [Slots.call, IdemStore.call]
      cases slots key <;> exact .in_memory h
  | redis h =>
    cases op with
    | reserve key =>
      have hkey := h key
      simp only [Slots.call, IdemStore.call, IdemStore.reserve]
      cases hslot : slots key with
      | free =>
        rw [hslot, Slot.redis] at hkey
        simp only [hkey]
        exact .redis (redis_put h rfl)
      | reserved =>
        rw [hslot, Slot.redis] at hkey
        simp only [hkey]
        exact .redis h
      | recorded o =>
        rw [hslot, Slot.redis] at hkey
        simp only [hkey]
        exact .redis h
    | record key o => exact .redis (redis_put h rfl)
    | lookup key =>
      simp only [Slots.call, IdemStore.call]
      cases slots key <;> exact .redis h

/-! ## Answers -/

/-- The output recorded in a slot. -/
def Slot.output : Slot → Option JsonObj
  | .free => none
  | .reserved => none
  | .recorded o => some o

/-- What a lookup shows of a slot: the in-memory store hides a recorded `{}`. -/
def Slot.shown (redis : Bool) : Slot → Option JsonObj
  | .free => none
  | .reserved => none
  | .recorded o => if redis || !o.isEmpty then some o else none

theorem Slot.shown_eq_output_iff (redis : Bool) (slot : Slot) :
    slot.shown redis = slot.output ↔ redis = true ∨ slot.output ≠ some [] := by
  cases slot with
  | free => simp [shown, output]
  | reserved => simp [shown, output]
  | recorded o => cases o <;> simp [shown, output]

theorem Holds.lookup {s : IdemStore} (h : Holds json slots s) (key : String) :
    s.lookup json key = (slots key).shown s.is_redis := by
  cases h with
  | in_memory h =>
    rw [IdemStore.lookup, h key]
    cases slots key with
    | free => rfl
    | reserved => rfl
    | recorded o => cases o <;> rfl
  | redis h =>
    rw [IdemStore.lookup, h key]
    cases slots key with
    | free => rfl
    | reserved => rfl
    | recorded o =>
      simp [Slot.redis, Slot.shown, IdemStore.is_redis, IdemStore.dumps_ne_reserved,
        json.loads_dumps]

theorem Holds.reserve {s : IdemStore} (h : Holds json slots s) (key : String) :
    (s.reserve key).1 = match slots key with
      | .free => true
      | .reserved => false
      | .recorded _ => false := by
  cases h with
  | in_memory h =>
    rw [IdemStore.reserve, h key]
    cases slots key <;> rfl
  | redis h =>
    rw [IdemStore.reserve, h key]
    cases slots key <;> rfl

/-- A store answers as its slots do, unless it is in memory and a recorded `{}` is
    looked up. -/
theorem Holds.answer_iff {s : IdemStore} (h : Holds json slots s) (op : IdemOp) :
    (s.call json op).1 = (slots.call op).1 ↔
      s.is_redis = true ∨ ∀ key, op = .lookup key → (slots key).output ≠ some [] := by
  cases op with
  | reserve key =>
    refine ⟨fun _ => .inr fun _ hop => (by cases hop), fun _ => ?_⟩
    simp only [IdemStore.call, Slots.call, h.reserve]
    cases slots key <;> rfl
  | record key o => exact ⟨fun _ => .inr fun _ hop => (by cases hop), fun _ => rfl⟩
  | lookup key =>
    have hslots : (slots.call (.lookup key)).1 = .found (slots key).output := by
      simp only [Slots.call]
      cases slots key <;> rfl
    simp only [hslots, IdemStore.call, h.lookup, IdemAnswer.found.injEq, IdemOp.lookup.injEq,
      forall_eq', Slot.shown_eq_output_iff]

theorem is_redis_after (json : JsonText) (ops : List IdemOp) (s : IdemStore) :
    (after_calls (IdemStore.call json) ops s).is_redis = s.is_redis := by
  induction ops generalizing s with
  | nil => rfl
  | cons op ops ih =>
    have hop : (s.call json op).2.is_redis = s.is_redis := by
      cases op with
      | reserve key => exact IdemStore.is_redis_reserve key s
      | record key o => exact IdemStore.is_redis_record json key o s
      | lookup key => rfl
    rw [after_calls, ih, hop]

/-! ## The latest record of a key -/

/-- The output last recorded under `key`, after one more call. -/
def note_record (key : String) (latest : Option JsonObj) : IdemOp → Option JsonObj
  | .record k o => if k = key then some o else latest
  | .reserve _ => latest
  | .lookup _ => latest

/-- The output of the last `record` of `key` among these calls. -/
def last_record (key : String) (ops : List IdemOp) : Option JsonObj :=
  ops.foldl (note_record key) none

theorem slot_output_call (key : String) (op : IdemOp) (slots : Slots) :
    ((slots.call op).2 key).output = note_record key (slots key).output op := by
  cases op with
  | reserve k =>
    simp only [Slots.call, note_record]
    cases hk : slots k with
    | free =>
      show (slots.put k .reserved key).output = (slots key).output
      by_cases he : key = k
      · rw [he, Slots.put_self, hk]
        rfl
      · rw [Slots.put_ne _ _ he]
    | reserved => rfl
    | recorded o => rfl
  | record k o =>
    simp only [Slots.call, note_record]
    by_cases he : k = key
    · rw [if_pos he, he, Slots.put_self]
      rfl
    · rw [if_neg he, Slots.put_ne _ _ (Ne.symm he)]
  | lookup k =>
    simp only [Slots.call, note_record]
    cases slots k <;> rfl

theorem slot_output_after (key : String) (ops : List IdemOp) (slots : Slots) :
    (after_calls Slots.call ops slots key).output =
      ops.foldl (note_record key) (slots key).output := by
  induction ops generalizing slots with
  | nil => rfl
  | cons op ops ih => rw [after_calls, ih, slot_output_call, List.foldl_cons]

/-- **The two stores compared.** From empty stores, the in-memory store and the Redis store
    answer a sequence of calls alike if and only if no call looks up a key whose
    latest record before it is `{}`. -/
theorem stores_answer_alike_iff (json : JsonText) (ops : List IdemOp) :
    answers (IdemStore.call json) ops (.in_memory ∅) = answers (IdemStore.call json) ops (.redis ∅) ↔
      ∀ pre key post, ops = pre ++ .lookup key :: post → last_record key pre ≠ some [] := by
  -- both are compared with the slots that the calls before leave
  have hcall : ∀ pre op,
      (IdemStore.call json op (after_calls (IdemStore.call json) pre (.in_memory ∅))).1 =
        (IdemStore.call json op (after_calls (IdemStore.call json) pre (.redis ∅))).1 ↔
      ∀ key, op = .lookup key → last_record key pre ≠ some [] := by
    intro pre op
    have hmemory := (holds_call json).after (holds_in_memory_empty json) pre
    have hredis := (holds_call json).after (holds_redis_empty json) pre
    have hanswer := (hredis.answer_iff op).mpr (.inl (is_redis_after json pre _))
    rw [hanswer, hmemory.answer_iff op, is_redis_after]
    simp only [slot_output_after, IdemStore.is_redis, Bool.false_eq_true, false_or]
    rfl
  rw [answers_eq_iff]
  constructor
  · intro h pre key post hops
    exact (hcall pre _).mp (h pre _ post hops) key rfl
  · intro h pre op post hops
    refine (hcall pre op).mpr fun key hop => ?_
    rw [hop] at hops
    exact h pre key post hops

/-- A lookup that found nothing. -/
def IdemAnswer.is_missing : IdemAnswer → Bool
  | .found none => true
  | _ => false

/-- A step without output is recorded: the in-memory store forgets it. -/
theorem empty_output_forgotten :
    answers (IdemStore.call reference_json)
      [.reserve "RUN:step", .record "RUN:step" [], .lookup "RUN:step"] (.in_memory ∅) ≠
    answers (IdemStore.call reference_json)
      [.reserve "RUN:step", .record "RUN:step" [], .lookup "RUN:step"] (.redis ∅) := by
  intro h
  have hmissing := congrArg (List.map IdemAnswer.is_missing) h
  revert hmissing
  decide +kernel

end CaseAutomation.Orchestrator
