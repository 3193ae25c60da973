import CaseAutomation.Connectors.Gating

/-! # Idempotent Writes

    Writes with one idempotency key, all sent through clients with Redis. `request` looks for the
    record of an earlier success, then runs its attempts, and only then records the
    result: two writes that have both found no record are both carried out. A replay is
    built from the recorded JSON alone: its status is always 200, a success without a
    JSON body is replayed with the body `{}`, and one with the body `null` without a body. A success
    whose record could not be written, and any success under the empty key, is not recorded at all.

    Where none of this happens, at most one attempt succeeds, and every other write that
    returns gives the same status and the same JSON body (`written_once_when_alone`).
-/

namespace CaseAutomation.Connectors

open Framework Program Region

/-- The record under this key. -/
def World.record (env : Env) (idem_key : String) (w : World) : Option String :=
  w.redis.get? (idem_redis_key env.connector idem_key)

/-- A response that its record stands for in full. -/
def Recordable (response : Response) : Prop :=
  response.status_code = 200 ∧ ∃ value, response.content = .json value ∧ value ≠ .null

/-- The same status code and the same JSON body. -/
def SameAnswer (response response' : Response) : Prop :=
  response.status_code = response'.status_code ∧ response.json = response'.json

/-- A success is a 200 with a JSON body other than `null`, and its record is written. -/
def Recorded (env : Env) (w : World) : (c : Call) → Except Exn c.Resp → Prop
  | .answer _ _ _, .ok (.inl response) => Recordable response
  | .idem_set _ _, _ => ∀ error, env.redis w.redis_calls ≠ .refused error
  | _, _ => True

/-- The calls in the runs where this is so. -/
def recorded (env : Env) (_ : Nat) : Relation Call Call.Resp Exn World :=
  fun c w r w' => exec env c w = (r, w') ∧ Recorded env w c r

/-- A write is inside from the moment it finds no record until it has written one or has failed. -/
def write_region (env : Env) (idem_key : String) : Region Call Call.Resp Exn World where
  enters
    | .idem_get _, .ok cached => (replayed cached).isNone
    | _, _ => false
  leaves
    | .start _ _, .error _ => true
    | .resume _, .error _ => true
    | .answer _ _ _, .error _ => true
    | .idem_set _ _, _ => true
    | _, _ => false
  inv w := w.successes.length ≤ 1 ∧ ∀ raw, w.record env idem_key = some raw →
    ∃ response value, w.successes = [response] ∧ response.status_code = 200 ∧
      response.content = .json value ∧ value ≠ .null ∧ raw = idem_record value
  rest w := w.record env idem_key = none → w.successes = []
  same w w' := w'.record env idem_key = w.record env idem_key ∧ w'.successes = w.successes
  kept w w' := ∀ response ∈ w.successes, response ∈ w'.successes
  same_refl _ := ⟨rfl, rfl⟩
  same_trans h h' := ⟨h'.1.trans h.1, h'.2.trans h.2⟩
  kept_trans h h' response hr := h' response (h response hr)
  kept_of_same h response hr := h.2 ▸ hr
  inv_of_same h hinv := by
    rw [h.1, h.2]
    exact hinv
  rest_of_same h hrest := by
    rw [h.1, h.2]
    exact hrest

section writes
variable {env : Env} {idem_key : String} {i : Nat} {s : World × List Nat}

/-- What a write may assume and must keep. -/
def write_contract (env : Env) (idem_key : String) (i : Nat) :
    Contract Call Call.Resp Exn (World × List Nat) :=
  (write_region env idem_key).contract (recorded env) i

/-- No record was found, and nothing has succeeded. -/
def Unwritten (env : Env) (idem_key : String) (w : World) : Prop :=
  w.record env idem_key = none ∧ w.successes = []

/-- The response has been received and is not recorded yet. -/
def Received (env : Env) (idem_key : String) (response : Response) (w : World) : Prop :=
  w.record env idem_key = none ∧ w.successes = [response] ∧ Recordable response

/-- What a write returns is the answer of the attempt that succeeded. -/
def Returned (r : Except Exn Response) (w : World) : Prop :=
  ∀ response, r = .ok response → ∃ first ∈ w.successes, SameAnswer response first

theorem returned_error (e : Exn) (w : World) : Returned (.error e) w := by
  intro response h
  cases h

theorem Returned.stable {r : Except Exn Response} {w w' : World}
    (hkept : (write_region env idem_key).kept w w') (h : Returned r w) : Returned r w' := by
  intro response hr
  obtain ⟨first, hmem, hsame⟩ := h response hr
  exact ⟨first, hkept first hmem, hsame⟩

theorem Unwritten.stable {w w' : World} (hsame : (write_region env idem_key).same w w')
    (h : Unwritten env idem_key w) : Unwritten env idem_key w' :=
  ⟨hsame.1.trans h.1, hsame.2.trans h.2⟩

theorem Received.stable {response : Response} {w w' : World}
    (hsame : (write_region env idem_key).same w w') (h : Received env idem_key response w) :
    Received env idem_key response w' :=
  ⟨hsame.1.trans h.1, hsame.2.trans h.2.1, h.2.2⟩

/-! ## Effects of the calls -/

/-- Neither the record nor the successes change. -/
theorem same_of_eq {w w' : World} (hredis : w'.redis = w.redis) (hsuccesses : w'.successes = w.successes) :
    (write_region env idem_key).same w w' :=
  ⟨congrArg (Dict.get? · _) hredis, hsuccesses⟩

/-- Guard, clock and circuit touch neither Redis nor the vendor. -/
theorem guard_circuit_same (env : Env) (w : World) :
    (w.guard_circuit env).2.redis = w.redis ∧ (w.guard_circuit env).2.successes = w.successes := by
  unfold World.guard_circuit
  simp only
  split
  · exact ⟨rfl, rfl⟩
  · exact ⟨rfl, rfl⟩

theorem start_attempt_same (env : Env) (deadline : ℚ) (w : World) :
    (w.start_attempt env deadline).2.redis = w.redis ∧
      (w.start_attempt env deadline).2.successes = w.successes := by
  obtain ⟨e, hfail⟩ | hstart := start_attempt_cases env deadline w
  · rw [hfail]
    exact ⟨rfl, rfl⟩
  · rw [hstart]
    exact ⟨rfl, rfl⟩

theorem first_attempt_same (env : Env) (total_deadline : ℚ) (w : World) :
    (w.first_attempt env total_deadline).2.redis = w.redis ∧
      (w.first_attempt env total_deadline).2.successes = w.successes := by
  have h := start_attempt_same env ((w.tick env).now + total_deadline) (w.tick env)
  unfold World.first_attempt
  simp only
  rcases hout : (w.tick env).start_attempt env ((w.tick env).now + total_deadline) with ⟨r, w'⟩
  rw [hout] at h
  cases r with
  | ok _ => exact h
  | error _ => exact h

/-- The vendor has answered: a failure changes nothing, and the last one is final. -/
theorem take_answer_same (env : Env) (retry : RetryPolicy) (attempt : Nat) (deadline : ℚ)
    (w : World) :
    (w.take_answer env retry attempt deadline).2.redis = w.redis ∧
      ((∃ response, (w.take_answer env retry attempt deadline).1 = .ok (.inl response) ∧
          (w.take_answer env retry attempt deadline).2.successes = response :: w.successes) ∨
        (w.take_answer env retry attempt deadline).2.successes = w.successes ∧
          (∀ response, (w.take_answer env retry attempt deadline).1 ≠ .ok (.inl response)) ∧
          (retry.max_attempts ≤ attempt →
            ∃ e, (w.take_answer env retry attempt deadline).1 = .error e)) := by
  unfold World.take_answer
  simp only
  split
  · next response _ => exact ⟨rfl, .inl ⟨response, rfl, rfl⟩⟩
  · next err _ =>
    have hlast := attempt_failed_last env retry attempt deadline err
      { w with answers := w.answers + 1 }
    refine ⟨?_, .inr ⟨?_, ?_, hlast⟩⟩
    all_goals
      unfold World.attempt_failed
      simp only
      split
      · split <;> first | rfl | exact fun _ h => by cases h
      · split <;> first | rfl | exact fun _ h => by cases h

/-- Only `None` is replayed without a body. -/
theorem replay_json {value : Json} (h : value ≠ .null) : (Response.replay value).json = some value := by
  cases value with
  | null => exact absurd rfl h
  | _ => rfl

/-- A record is replayed as the response that it stands for. -/
theorem replayed_record (value : Json) :
    replayed (JsonCodec.loads (idem_record value)) = some (.ok (.replay value)) := by
  unfold idem_record
  rw [JsonCodec.loads_dumps]
  rfl

/-! ## One write -/

theorem safe_write_guard (h : Outside i (fun _ => True) s) :
    Safe (write_contract env idem_key i) (fun _ s' => Outside i (fun _ => True) s') (await .guard) s := by
  refine idle_call h (fun _ h => h) (fun _ => rfl) ?_
  intro w r w' _ _ hstep
  obtain ⟨hredis, hsuccesses⟩ := guard_circuit_same env w
  rw [show w.guard_circuit env = (r, w') from hstep.1] at hredis hsuccesses
  exact ⟨same_of_eq hredis hsuccesses, trivial⟩

/-- What the lookup answers. -/
theorem idem_get_cases (env : Env) (idem_key : String) (w : World) :
    (∃ e, (w.idem_get env idem_key).1 = .error e) ∨
      ((w.idem_get env idem_key).1 = .ok none ∧ w.record env idem_key = none) ∨
      ∃ raw cached, w.record env idem_key = some raw ∧ JsonCodec.loads raw = some cached ∧
        (w.idem_get env idem_key).1 = .ok (some cached) := by
  unfold World.idem_get World.record
  simp only
  split
  · exact .inl ⟨_, rfl⟩
  · exact .inl ⟨_, rfl⟩
  · split
    · next hnone => exact .inr (.inl ⟨rfl, hnone⟩)
    · next raw hraw =>
      split
      · exact .inl ⟨_, rfl⟩
      · next cached hloads => exact .inr (.inr ⟨raw, cached, hraw, hloads, rfl⟩)

theorem idem_get_same (env : Env) (key : String) (w : World) :
    (w.idem_get env key).2.redis = w.redis ∧ (w.idem_get env key).2.successes = w.successes := by
  unfold World.idem_get
  simp only
  split
  · exact ⟨rfl, rfl⟩
  · exact ⟨rfl, rfl⟩
  · split
    · exact ⟨rfl, rfl⟩
    · split
      · exact ⟨rfl, rfl⟩
      · exact ⟨rfl, rfl⟩

/-- The lookup: a record is replayed, and without one nothing has succeeded so far. -/
theorem safe_lookup (h : Outside i (fun _ => True) s) :
    Safe (write_contract env idem_key i) (fun r s' =>
      ((write_region env idem_key).enters (.idem_get idem_key) r = true →
        Inside i (Unwritten env idem_key) s') ∧
      ((write_region env idem_key).enters (.idem_get idem_key) r = false →
        Outside i (fun w => ∀ (cached : Option JsonObj) answer, r = .ok cached →
          replayed cached = some answer → Returned answer w) s'))
      (await (.idem_get idem_key)) s := by
  refine outside_call (Q := fun _ => Unwritten env idem_key)
    (L := fun (r : Except Exn (Call.idem_get idem_key).Resp) w => ∀ (cached : Option JsonObj) answer, r = .ok cached →
      replayed cached = some answer → Returned answer w) h (fun _ h => h) ?_
  intro w r w' hinv _ hstep
  have hout : w.idem_get env idem_key = (r, w') := hstep.1
  have hcases := idem_get_cases env idem_key w
  obtain ⟨hredis, hsuccesses⟩ := idem_get_same env idem_key w
  rw [hout] at hcases hredis hsuccesses
  have hsame : (write_region env idem_key).same w w' := same_of_eq hredis hsuccesses
  refine ⟨hsame, ?_, ?_⟩
  · intro henters hrest
    obtain ⟨e, rfl⟩ | ⟨rfl, hnone⟩ | ⟨raw, cached, hraw, hloads, rfl⟩ := hcases
    · cases henters
    · exact Unwritten.stable hsame ⟨hnone, hrest hnone⟩
    · -- a record can be replayed
      obtain ⟨_, value, -, -, -, -, rfl⟩ := hinv.2 raw hraw
      have hmiss : (replayed (some cached)).isNone = true := henters
      rw [← hloads, replayed_record] at hmiss
      cases hmiss
  · intro _ cached answer hr hreplay
    obtain ⟨e, rfl⟩ | ⟨rfl, hnone⟩ | ⟨raw, cached', hraw, hloads, rfl⟩ := hcases
    · cases hr
    · cases hr
      cases hreplay
    · cases hr
      obtain ⟨response, value, hone, hstatus, hcontent, hvalue, rfl⟩ := hinv.2 raw hraw
      rw [← hloads, replayed_record] at hreplay
      cases hreplay
      intro replay hreplay
      cases hreplay
      refine ⟨response, ?_, hstatus.symm, ?_⟩
      · rw [hsame.2, hone]
        exact List.mem_singleton_self response
      · have hjson : response.json = some value := by simp [Response.json, hcontent]
        rw [replay_json hvalue, hjson]

/-- A call that changes neither the record nor the successes, and ends the write when it fails. -/
theorem safe_attempt {c : Call} (hno : ∀ r, (write_region env idem_key).enters c r = false)
    (hok : ∀ a, (write_region env idem_key).leaves c (.ok a) = false)
    (herror : ∀ e, (write_region env idem_key).leaves c (.error e) = true)
    (hunchanged : ∀ w, (exec env c w).2.redis = w.redis ∧ (exec env c w).2.successes = w.successes)
    (h : Inside i (Unwritten env idem_key) s) :
    Safe (write_contract env idem_key i) (fun r s' => (∀ a, r = .ok a →
        Inside i (Unwritten env idem_key) s') ∧ (∀ e, r = .error e → Outside i (fun _ => True) s'))
      (await c) s := by
  refine Safe.weaken (inside_call (L := fun _ _ => True) (Q := fun _ => Unwritten env idem_key) h
    Unwritten.stable hno ?_) ?_
  · intro w r w' hinv hw hstep
    obtain ⟨hredis, hsuccesses⟩ := hunchanged w
    rw [hstep.1] at hredis hsuccesses
    have hsame : (write_region env idem_key).same w w' := same_of_eq hredis hsuccesses
    have hunwritten := Unwritten.stable hsame hw
    exact ⟨Region.inv_of_same _ hsame hinv, Region.kept_of_same _ hsame,
      fun _ => ⟨fun _ => hunwritten.2, trivial⟩, fun _ => hunwritten⟩
  · intro r s' hr
    cases r with
    | ok a => exact ⟨fun _ _ => hr.2 (hok a), fun e he => by cases he⟩
    | error e => exact ⟨fun a ha => (by cases ha), fun _ _ => hr.1 (herror e)⟩

/-- The first attempt is started, or the write gives up. -/
theorem safe_first_attempt {total_deadline : ℚ} (h : Inside i (Unwritten env idem_key) s) :
    Safe (write_contract env idem_key i) (fun r s' => (∀ deadline, r = .ok deadline →
        Inside i (Unwritten env idem_key) s') ∧ (∀ e, r = .error e → Outside i (fun _ => True) s'))
      (await (.start false total_deadline)) s :=
  safe_attempt (fun _ => rfl) (fun _ => rfl) (fun _ => rfl) (first_attempt_same env total_deadline) h

theorem safe_next_attempt {deadline : ℚ} (h : Inside i (Unwritten env idem_key) s) :
    Safe (write_contract env idem_key i) (fun r s' => (∀ u, r = .ok u →
        Inside i (Unwritten env idem_key) s') ∧ (∀ e, r = .error e → Outside i (fun _ => True) s'))
      (await (.resume deadline)) s :=
  safe_attempt (fun _ => rfl) (fun _ => rfl) (fun _ => rfl) (start_attempt_same env deadline) h

theorem safe_write_sleep {wake_at : ℚ} (h : Inside i (Unwritten env idem_key) s) :
    Safe (write_contract env idem_key i)
      (fun r s' => r = .ok () ∧ Inside i (Unwritten env idem_key) s') (await (.sleep wake_at)) s := by
  refine Safe.weaken (inside_call (L := fun _ _ => True)
    (Q := fun r w => r = .ok () ∧ Unwritten env idem_key w) h Unwritten.stable (fun _ => rfl) ?_) ?_
  · intro w r w' hinv hw hstep
    obtain ⟨rfl, hw'⟩ := Prod.mk.inj hstep.1
    have hsame : (write_region env idem_key).same w w' := by
      rw [← hw']
      exact same_of_eq rfl rfl
    exact ⟨Region.inv_of_same _ hsame hinv, Region.kept_of_same _ hsame, fun h => (by cases h),
      fun _ => ⟨rfl, Unwritten.stable hsame hw⟩⟩
  · intro r s' hr
    obtain ⟨hin, hok, hunwritten⟩ := hr.2 rfl
    exact ⟨hok, hin, hunwritten⟩

/-- The vendor answers the only write inside: this is the first success, or nothing happened. -/
theorem safe_write_answer {retry : RetryPolicy} {attempt : Nat} {deadline : ℚ}
    (h : Inside i (Unwritten env idem_key) s) :
    Safe (write_contract env idem_key i) (fun r s' =>
        (∀ response, r = .ok (.inl response) → Inside i (Received env idem_key response) s') ∧
        (∀ wake_at, r = .ok (.inr wake_at) →
          ¬ retry.max_attempts ≤ attempt ∧ Inside i (Unwritten env idem_key) s') ∧
        (∀ e, r = .error e → Outside i (fun _ => True) s'))
      (await (.answer retry attempt deadline)) s := by
  refine Safe.weaken (inside_call (L := fun _ _ => True)
    (Q := fun r w => (∀ response, r = .ok (.inl response) → Received env idem_key response w) ∧
      (∀ wake_at, r = .ok (.inr wake_at) → ¬ retry.max_attempts ≤ attempt ∧ Unwritten env idem_key w)) h
    Unwritten.stable (fun _ => rfl) ?_) ?_
  · intro w r w' hinv hw hstep
    obtain ⟨hexec, hrecorded⟩ := hstep
    obtain ⟨hredis, hout⟩ := take_answer_same env retry attempt deadline w
    rw [show w.take_answer env retry attempt deadline = (r, w') from hexec] at hredis hout
    have hnone : w'.record env idem_key = none := by
      rw [World.record, show w'.redis = w.redis from hredis]
      exact hw.1
    obtain ⟨response, rfl, hsuccesses⟩ | ⟨hsuccesses, hfailed, hlast⟩ := hout
    · have hone : w'.successes = [response] := by
        rw [show w'.successes = response :: w.successes from hsuccesses, hw.2]
      refine ⟨⟨?_, ?_⟩, ?_, fun h => (by cases h), fun _ => ⟨?_, fun _ h => by cases h⟩⟩
      · rw [hone]
        exact le_refl 1
      · intro raw hraw
        rw [hnone] at hraw
        cases hraw
      · intro first hfirst
        rw [hw.2] at hfirst
        cases hfirst
      · intro response' hr
        cases hr
        exact ⟨hnone, hone, hrecorded⟩
    · have hsame : (write_region env idem_key).same w w' := same_of_eq hredis hsuccesses
      have hunwritten := Unwritten.stable hsame hw
      refine ⟨Region.inv_of_same _ hsame hinv, Region.kept_of_same _ hsame,
        fun _ => ⟨fun _ => hunwritten.2, trivial⟩, fun _ => ⟨?_, ?_⟩⟩
      · intro response hr
        exact absurd hr (hfailed response)
      · rintro wake_at rfl
        refine ⟨fun hmax => ?_, hunwritten⟩
        obtain ⟨e, he⟩ := hlast hmax
        cases he
  · intro r s' hr
    match r with
    | .ok (.inl response) =>
      obtain ⟨hin, hreceived, -⟩ := hr.2 rfl
      exact ⟨fun response' h => ⟨hin, hreceived response' h⟩, fun _ h => (by cases h),
        fun _ h => (by cases h)⟩
    | .ok (.inr wake_at) =>
      obtain ⟨hin, -, hunwritten⟩ := hr.2 rfl
      exact ⟨fun _ h => (by cases h), fun wake_at' h => ⟨(hunwritten wake_at' h).1, hin,
        (hunwritten wake_at' h).2⟩, fun _ h => (by cases h)⟩
    | .error e => exact ⟨fun _ h => (by cases h), fun _ h => (by cases h), fun _ _ => hr.1 rfl⟩

/-- What an attempt returns is received, and after an exception the write has ended. -/
def Answered (env : Env) (idem_key : String) (i : Nat) (r : Except Exn Response)
    (s : World × List Nat) : Prop :=
  (∀ response, r = .ok response → Inside i (Received env idem_key response) s) ∧
    (∀ e, r = .error e → Outside i (fun _ => True) s)

theorem Answered.ok {response : Response} (h : Inside i (Received env idem_key response) s) :
    Answered env idem_key i (.ok response) s := by
  refine ⟨?_, fun _ h => by cases h⟩
  intro response' hr
  cases hr
  exact h

theorem Answered.error (e : Exn) (h : Outside i (fun _ => True) s) :
    Answered env idem_key i (.error e) s :=
  ⟨fun _ h => (by cases h), fun _ _ => h⟩

/-- The attempts of a write. -/
theorem safe_write_loop (retry : RetryPolicy) (deadline : ℚ) (left attempt : Nat)
    {s : World × List Nat} (hleft : retry.max_attempts ≤ attempt + left)
    (h : Inside i (Unwritten env idem_key) s) :
    Safe (write_contract env idem_key i) (Answered env idem_key i)
      (retry_loop retry deadline left attempt) s := by
  induction left generalizing attempt s with
  | zero =>
    refine Safe.bind (safe_write_answer h) ?_ fun e _ hanswer => .error e (hanswer.2.2 e rfl)
    intro answer s₁ hanswer
    cases answer with
    | inl response => exact Safe.ret (.ok (hanswer.1 response rfl))
    | inr wake_at =>
      -- there is no further attempt after the last one
      have hmore := (hanswer.2.1 wake_at rfl).1
      exact absurd (by simpa using hleft) hmore
  | succ left ih =>
    refine Safe.bind (safe_write_answer h) ?_ fun e _ hanswer => .error e (hanswer.2.2 e rfl)
    intro answer s₁ hanswer
    cases answer with
    | inl response => exact Safe.ret (.ok (hanswer.1 response rfl))
    | inr wake_at =>
      refine Safe.bind (safe_write_sleep (hanswer.2.1 wake_at rfl).2) ?_ fun e _ hslept => by
        cases hslept.1
      intro _ s₂ hslept
      refine Safe.bind (safe_next_attempt hslept.2) ?_ fun e _ hnext => .error e (hnext.2 e rfl)
      intro u s₃ hnext
      have hleft' : retry.max_attempts ≤ ((attempt + 1 : Nat) : Int) + left := by
        push_cast at hleft ⊢
        omega
      exact ih (attempt + 1) hleft' (hnext.1 u rfl)

theorem safe_write_attempts (retry : RetryPolicy) (h : Inside i (Unwritten env idem_key) s) :
    Safe (write_contract env idem_key i) (Answered env idem_key i) (execute_with_retry false retry) s := by
  refine Safe.bind (safe_first_attempt h) ?_ fun e _ hstart => .error e (hstart.2 e rfl)
  intro deadline s₁ hstart
  exact safe_write_loop retry deadline _ 1 (by omega) (hstart.1 deadline rfl)

/-- The record is written, and from now on it is found. -/
theorem safe_record {response : Response} (hkey : idem_key ≠ "")
    (h : Inside i (Received env idem_key response) s) :
    Safe (write_contract env idem_key i)
      (fun _ s' => Outside i (fun w => response ∈ w.successes) s')
      (record_result idem_key response) s := by
  unfold record_result
  rw [if_neg hkey]
  refine Safe.weaken (inside_call (L := fun _ w => response ∈ w.successes) (Q := fun _ _ => True) h
    Received.stable (fun _ => rfl) ?_) fun _ _ hr => hr.1 rfl
  intro w r w' _ hw hstep
  obtain ⟨hexec, hwritten⟩ := hstep
  obtain ⟨-, hone, hstatus, value, hcontent, hvalue⟩ := hw
  have hresult : response.result_data = value := by
    simp [Response.result_data, Response.json, hcontent]
  have hout : w'.successes = w.successes ∧
      w'.record env idem_key = some (idem_record response.result_data) := by
    have hset : w.idem_set env idem_key response.result_data = (r, w') := hexec
    unfold World.idem_set at hset
    simp only at hset
    cases hfault : env.redis w.redis_calls with
    | refused error => exact absurd hfault (hwritten error)
    | answered =>
      rw [hfault] at hset
      obtain ⟨-, rfl⟩ := Prod.mk.inj hset
      exact ⟨rfl, Dict.get?_set_self _ _ _⟩
    | unacknowledged error =>
      rw [hfault] at hset
      obtain ⟨-, rfl⟩ := Prod.mk.inj hset
      exact ⟨rfl, Dict.get?_set_self _ _ _⟩
  obtain ⟨hsuccesses, hrecord⟩ := hout
  have hmem : response ∈ w'.successes := by
    rw [hsuccesses, hone]
    exact List.mem_singleton_self response
  refine ⟨⟨?_, ?_⟩, ?_, fun _ => ⟨?_, hmem⟩, fun h => by cases h⟩
  · rw [hsuccesses, hone]
    exact le_refl 1
  · intro raw hraw
    rw [hrecord] at hraw
    cases hraw
    exact ⟨response, value, hsuccesses.trans hone, hstatus, hcontent, hvalue, by rw [hresult]⟩
  · intro first hfirst
    rw [hsuccesses]
    exact hfirst
  · intro hnone
    rw [hrecord] at hnone
    cases hnone

/-- One write, whatever the others do. -/
theorem safe_written (retry : RetryPolicy) (hkey : idem_key ≠ "")
    (h : Outside i (fun _ => True) s) :
    Safe (write_contract env idem_key i) (fun r s' => Returned r s'.1)
      (idempotent_write idem_key retry) s := by
  refine Safe.bind (safe_write_guard h) ?_ fun e s' _ => returned_error e s'.1
  intro _ s₁ hout
  refine Safe.bind (safe_lookup hout) ?_ fun e s' _ => returned_error e s'.1
  intro cached s₂ hlookup
  cases hreplay : replayed cached with
  | some answer =>
    have henters : (write_region env idem_key).enters (.idem_get idem_key) (.ok cached) = false := by
      show (replayed cached).isNone = false
      rw [hreplay]
      rfl
    have hreturned := (hlookup.2 henters).2 cached answer rfl hreplay
    cases answer with
    | ok response => exact Safe.ret hreturned
    | error e => exact Safe.raise hreturned
  | none =>
    have henters : (write_region env idem_key).enters (.idem_get idem_key) (.ok cached) = true := by
      show (replayed cached).isNone = true
      rw [hreplay]
      rfl
    refine Safe.bind (safe_write_attempts retry (hlookup.1 henters)) ?_
      fun e s' _ => returned_error e s'.1
    intro response s₃ hanswer
    refine Safe.bind (safe_record hkey (hanswer.1 response rfl)) ?_ fun e s' _ => returned_error e s'.1
    intro _ s₄ hrecorded
    refine Safe.ret ?_
    intro response' hr
    cases hr
    exact ⟨response, hrecorded.2, rfl, rfl⟩

end writes

/-- **Idempotent writes.** Any number of writes with one key, in any order, with any answers: where
    none finds the key unrecorded while another one is between that and its record or its
    failure, and every success is a 200 with a JSON body that is not `null`, whose record is written, at
    most one attempt succeeds, and every write that returns gives its status and its JSON body. -/
theorem written_once_when_alone {env : Env} {idem_key : String} {calls : List (Bool × Request)}
    {w₀ w : World} {inside : List Nat} {ts : List (M Response)} (hkey : idem_key ≠ "")
    (hcalls : ∀ c ∈ calls, resolve_idem_key env c.1 c.2 = some idem_key)
    (hfresh : w₀.record env idem_key = none) (hnew : w₀.successes = [])
    (h : Interleaving ((write_region env idem_key).solitary (recorded env)) (w₀, [])
      (calls.map fun c => request env c.1 c.2) (w, inside) ts) :
    w.successes.length ≤ 1 ∧ ∀ response, .ret response ∈ ts →
      ∃ first ∈ w.successes, SameAnswer response first := by
  have hinv : (write_region env idem_key).inv w₀ := by
    refine ⟨?_, fun raw hraw => ?_⟩
    · rw [hnew]
      exact Nat.zero_le 1
    · rw [hfresh] at hraw
      cases hraw
  have hsafe : ∀ i p, (calls.map fun c => request env c.1 c.2)[i]? = some p →
      Safe (write_contract env idem_key i) (fun r s' => Returned r s'.1) p (w₀, []) := by
    intro i p hp
    rw [List.getElem?_map, Option.map_eq_some_iff] at hp
    obtain ⟨c, hc, rfl⟩ := hp
    unfold request
    rw [hcalls c (List.mem_of_getElem? hc)]
    exact safe_written c.2.retry hkey ⟨List.not_mem_nil, trivial⟩
  obtain ⟨hsolo, hrest⟩ := solitary_safe (Q := fun _ r s => Returned r s.1)
    (fun _ _ _ _ hrely hr => Returned.stable hrely.kept hr) hinv (fun _ => hnew) hsafe h
  refine ⟨hsolo.inv.1, ?_⟩
  intro response hmem
  obtain ⟨i, hi⟩ := List.getElem?_of_mem hmem
  exact hrest i _ hi response rfl

/-! ## Two writes with one key -/

section two_writes

def create_matter : Request :=
  ⟨"POST", "https://api.vendor.com/matters", some "k1", DEFAULT_RETRY, .obj [], true, "create"⟩

/-- The vendor creates a matter and says so in a JSON body. -/
def created : Response := .replay (.obj [("id", .str "m-1")])

/-- The vendor has nothing to say. -/
def no_content : Response := ⟨204, .empty, none⟩

/-- The vendor says that there is nothing. -/
def nothing : Response := ⟨200, .json .null, none⟩

def both_writes (env : Env) : List (M Response) :=
  [(true, create_matter), (true, create_matter)].map fun c => request env c.1 c.2

/-- Both writes run side by side, one call each in turn. -/
def writes_side_by_side : Option (World × List (M Response)) :=
  play (fun _ c w => some (exec (vendor_env [created, created]) c w)) [0, 1, 0, 1, 0, 1, 0, 1, 0, 1]
    (new_world 5) (both_writes (vendor_env [created, created]))

/-- The second write starts when the first one has ended. -/
def writes_in_turn (answers : List Response) : Option (World × List (M Response)) :=
  play (fun _ c w => some (exec (vendor_env answers) c w)) [0, 0, 0, 0, 0, 1, 1, 1, 1, 1]
    (new_world 5) (both_writes (vendor_env answers))

/-- What a thread has returned. -/
def returned_answer : M Response → Option (Int × Bool)
  | .ret response => some (response.status_code, response.json.isSome)
  | _ => none

/-- **Two writes are carried out, and a replay is not the answer.** Two writes with one key find no
    record and both succeed; one after the other, a `204` without a body is replayed as a
    `200` with one, and the body `null` as no body. -/
theorem both_writes_succeed :
    (∃ w ts, Interleaving (fun _ => Service.rel (exec (vendor_env [created, created]))) (new_world 5)
      (both_writes (vendor_env [created, created])) w ts ∧ w.successes.length = 2) ∧
    (∃ w ts, Interleaving (fun _ => Service.rel (exec (vendor_env [no_content]))) (new_world 5)
      (both_writes (vendor_env [no_content])) w ts ∧
      ts.map returned_answer = [some (204, false), some (200, true)]) ∧
    ∃ w ts, Interleaving (fun _ => Service.rel (exec (vendor_env [nothing]))) (new_world 5)
      (both_writes (vendor_env [nothing])) w ts ∧
      ts.map returned_answer = [some (200, true), some (200, false)] := by
  refine ⟨?_, ?_, ?_⟩
  · have hplayed : writes_side_by_side.isSome = true := by decide +kernel
    obtain ⟨⟨w, ts⟩, hrun⟩ := Option.isSome_iff_exists.mp hplayed
    have htwice : ∀ s ∈ writes_side_by_side, s.1.successes.length = 2 := by decide +kernel
    refine ⟨w, ts, ?_, htwice _ hrun⟩
    exact Interleaving.of_play_exec hrun
  · have hplayed : (writes_in_turn [no_content]).isSome = true := by decide +kernel
    obtain ⟨⟨w, ts⟩, hrun⟩ := Option.isSome_iff_exists.mp hplayed
    have hanswers : ∀ s ∈ writes_in_turn [no_content],
        s.2.map returned_answer = [some (204, false), some (200, true)] := by decide +kernel
    refine ⟨w, ts, ?_, hanswers _ hrun⟩
    exact Interleaving.of_play_exec hrun
  · have hplayed : (writes_in_turn [nothing]).isSome = true := by decide +kernel
    obtain ⟨⟨w, ts⟩, hrun⟩ := Option.isSome_iff_exists.mp hplayed
    have hanswers : ∀ s ∈ writes_in_turn [nothing],
        s.2.map returned_answer = [some (200, true), some (200, false)] := by decide +kernel
    refine ⟨w, ts, ?_, hanswers _ hrun⟩
    exact Interleaving.of_play_exec hrun

/-- The vendor always creates a matter. -/
def created_env : Env := { vendor_env [] with vendor := fun _ => .ok created }

theorem recorded_created (i : Nat) (c : Call) (w : World) (r : Except Exn c.Resp) (w' : World)
    (h : some (exec created_env c w) = some (r, w')) : recorded created_env i c w r w' := by
  have hexec : exec created_env c w = (r, w') := Option.some.inj h
  refine ⟨hexec, ?_⟩
  unfold Recorded
  split
  · next retry attempt deadline response =>
    have hout : w.take_answer created_env retry attempt deadline = (.ok (.inl response), w') := hexec
    have htake : w.take_answer created_env retry attempt deadline = (.ok (.inl created), _) := rfl
    rw [htake] at hout
    obtain ⟨hr, -⟩ := Prod.mk.inj hout
    cases hr
    exact ⟨rfl, _, rfl, by simp⟩
  · intro error h
    cases h
  · trivial

def created_in_turn : Option ((World × List Nat) × List (M Response)) :=
  play ((write_region created_env "k1").solitary_exec fun _ c w => some (exec created_env c w))
    [0, 0, 0, 0, 0, 1, 1, 1, 1, 1] (new_world 5, [])
    ([(true, create_matter), (true, create_matter)].map fun c => request created_env c.1 c.2)

/-- One write after the other: the second one gets the answer that the first one got. -/
theorem writes_in_turn_agree : ∃ w : World, ∃ ts : List (M Response), w.successes.length = 1 ∧
    w.successes.length ≤ 1 ∧ ∀ response, .ret response ∈ ts →
      ∃ first ∈ w.successes, SameAnswer response first := by
  have hplayed : created_in_turn.isSome = true := by decide +kernel
  obtain ⟨⟨⟨w, inside⟩, ts⟩, hrun⟩ := Option.isSome_iff_exists.mp hplayed
  have hcount : ∀ s ∈ created_in_turn, s.1.1.successes.length = 1 := by decide +kernel
  have hreach : Interleaving ((write_region created_env "k1").solitary (recorded created_env))
      (new_world 5, []) ([(true, create_matter), (true, create_matter)].map fun c =>
        request created_env c.1 c.2) (w, inside) ts := by
    apply Interleaving.of_play _ hrun
    intro i c s r s' hexec
    exact solitary_exec_sound recorded_created hexec
  refine ⟨w, ts, hcount _ hrun, ?_⟩
  exact written_once_when_alone (by decide) (by decide) rfl rfl hreach

end two_writes

end CaseAutomation.Connectors
