import CaseAutomation.Framework.Dict
import CaseAutomation.Base.Errors

/-! # Idempotency Stores

    The two implementations of `orchestrator/idempotency.py`. Expiry after
    `IDEM_TTL` is not modelled; an unreachable Redis is a failing call.

    * In memory, `reserve` leaves the placeholder `{}` and `lookup` reads `{}` as
      "not recorded yet".
    * In Redis, `reserve` leaves the text `reserved`, which is not JSON.
-/

namespace CaseAutomation.Orchestrator

open Framework

/-- `json.dumps` / `json.loads` on step outputs. -/
structure JsonText where
  dumps : JsonObj → String
  /-- `none` stands for `JSONDecodeError`. -/
  loads : String → Option JsonObj
  loads_dumps : ∀ o, loads (dumps o) = some o
  /-- The reservation marker is not a JSON text. -/
  loads_reserved : loads "reserved" = none

/-- `_redis_key`. -/
def redis_key (idem_key : String) : String := "cam:step_idem:" ++ idem_key

/-- An `InMemoryIdempotencyStore` or a `RedisIdempotencyStore` with its database. -/
inductive IdemStore where
  | in_memory (store : Dict String JsonObj)
  | redis (db : Dict String String)

namespace IdemStore

/-- The store is backed by Redis. -/
def is_redis : IdemStore → Bool
  | .in_memory _ => false
  | .redis _ => true

/-- `reserve`: claim the key unless it is already there. -/
def reserve (idem_key : String) : IdemStore → Bool × IdemStore
  | .in_memory store =>
    match store.get? idem_key with
    | some _ => (false, .in_memory store)
    | none => (true, .in_memory (store.set idem_key []))
  | .redis db =>
    match db.get? (redis_key idem_key) with
    | some _ => (false, .redis db)
    | none => (true, .redis (db.set (redis_key idem_key) "reserved"))

/-- `record`. -/
def record (json : JsonText) (idem_key : String) (output : JsonObj) : IdemStore → IdemStore
  | .in_memory store => .in_memory (store.set idem_key output)
  | .redis db => .redis (db.set (redis_key idem_key) (json.dumps output))

/-- `lookup`: the recorded output, if there is one. -/
def lookup (json : JsonText) (idem_key : String) : IdemStore → Option JsonObj
  | .in_memory store =>
    match store.get? idem_key with
    | none => none
    | some val => if val.isEmpty then none else some val
  | .redis db =>
    match db.get? (redis_key idem_key) with
    | none => none
    | some raw => if raw = "reserved" then none else json.loads raw

/-! ## What a record does to later lookups -/

theorem dumps_ne_reserved (json : JsonText) (o : JsonObj) : json.dumps o ≠ "reserved" := by
  intro h
  have hload := json.loads_dumps o
  rw [h, json.loads_reserved] at hload
  cases hload

theorem redis_key_injective {a b : String} (h : redis_key a = redis_key b) : a = b := by
  simpa [redis_key] using h

@[simp] theorem is_redis_record (json : JsonText) (key : String) (o : JsonObj)
    (s : IdemStore) : (s.record json key o).is_redis = s.is_redis := by
  cases s <;> rfl

@[simp] theorem is_redis_reserve (key : String) (s : IdemStore) :
    (s.reserve key).2.is_redis = s.is_redis := by
  cases s with
  | in_memory store => simp only [reserve]; split <;> rfl
  | redis db => simp only [reserve]; split <;> rfl

/-- A record is seen by the next lookup: always with Redis, and in memory unless the
    output is empty. -/
theorem lookup_record_self (json : JsonText) (key : String) (o : JsonObj) (s : IdemStore) :
    (s.record json key o).lookup json key =
      if s.is_redis then some o else if o.isEmpty then none else some o := by
  cases s with
  | in_memory store => simp [record, lookup, is_redis]
  | redis db =>
    simp only [record, lookup, is_redis, Dict.get?_set_self, if_neg (dumps_ne_reserved json o),
      json.loads_dumps, if_true]

/-- Other keys are unaffected. -/
theorem lookup_record_ne (json : JsonText) {key key' : String} (o : JsonObj) (s : IdemStore)
    (h : key' ≠ key) : (s.record json key o).lookup json key' = s.lookup json key' := by
  cases s with
  | in_memory store => simp only [record, lookup, Dict.get?_set_ne _ _ h]
  | redis db =>
    have hk : redis_key key' ≠ redis_key key := fun he => h (redis_key_injective he)
    simp only [record, lookup, Dict.get?_set_ne _ _ hk]

/-- A reservation changes no lookup. -/
@[simp] theorem lookup_reserve (json : JsonText) (key key' : String) (s : IdemStore) :
    (s.reserve key).2.lookup json key' = s.lookup json key' := by
  cases s with
  | in_memory store =>
    simp only [reserve]
    split
    · rfl
    · next hnone =>
      by_cases h : key' = key
      · subst h
        simp [lookup, hnone]
      · simp only [lookup, Dict.get?_set_ne _ _ h]
  | redis db =>
    simp only [reserve]
    split
    · rfl
    · next hnone =>
      by_cases h : key' = key
      · subst h
        simp [lookup, hnone]
      · have hk : redis_key key' ≠ redis_key key := fun he => h (redis_key_injective he)
        simp only [lookup, Dict.get?_set_ne _ _ hk]

/-- The reservation and the record of one step. -/
def complete (json : JsonText) (idem_key : String) (output : JsonObj) (s : IdemStore) : IdemStore :=
  (s.reserve idem_key).2.record json idem_key output

@[simp] theorem is_redis_complete (json : JsonText) (key : String) (o : JsonObj) (s : IdemStore) :
    (s.complete json key o).is_redis = s.is_redis := by
  unfold complete
  rw [is_redis_record, is_redis_reserve]

theorem lookup_complete_self (json : JsonText) (key : String) (o : JsonObj) (s : IdemStore) :
    (s.complete json key o).lookup json key =
      if s.is_redis then some o else if o.isEmpty then none else some o := by
  unfold complete
  rw [lookup_record_self, is_redis_reserve]

theorem lookup_complete_ne (json : JsonText) {key key' : String} (o : JsonObj) (s : IdemStore)
    (h : key' ≠ key) : (s.complete json key o).lookup json key' = s.lookup json key' := by
  unfold complete
  rw [lookup_record_ne _ _ _ h, lookup_reserve]

end IdemStore

end CaseAutomation.Orchestrator
