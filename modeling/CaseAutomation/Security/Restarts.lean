import CaseAutomation.Security.Rotation
import CaseAutomation.Orchestrator.Reference

/-! # Encrypted Columns across Restarts

    `EncryptedStr` of `security/crypto.py` writes and reads through the service of its process, and
    each process makes that service when it starts (`lifespan` in `sidecar/main.py`). The KEK comes
    from the secret store, but no wrapped DEK is passed to `configure_crypto`, and none is
    ever stored: each process draws a data key of its own, so what one process has written is
    lost to the next (`survives_restarts_iff`).
-/

namespace CaseAutomation.Security

open Orchestrator

/-! ## Starting a process -/

/-- `base64.b64decode` of a string. -/
def b64decode_str (s : String) : Option Bytes :=
  if is_ascii s then b64decode (encode_utf8 s) else none

/-- `configure_crypto`: the new `_service`. -/
def configure_crypto (env : CryptoEnv) (kek : Bytes) (wrapped_dek : Option Bytes) (draws : Nat) :
    Except Exn CryptoService :=
  match CryptoService.new kek with
  | .error e => .error e
  | .ok svc =>
    if (wrapped_dek.getD []).isEmpty then .ok svc
    else
      match Session.load_wrapped_dek env ⟨svc, draws⟩ (wrapped_dek.getD []) with
      | (.error e, _) => .error e
      | (.ok (), s) => .ok s.service

/-- Step 2 of `lifespan`: the service, or `None` after a failure, which is only logged. `secret` is
    what the loader returns or raises. -/
def lifespan_crypto (env : CryptoEnv) (secret : Except Exn String) (draws : Nat) :
    Option CryptoService :=
  match secret with
  | .error _ => none
  | .ok kek_b64 =>
    match b64decode_str kek_b64 with
    | none => none
    | some kek => (configure_crypto env kek none draws).toOption

/-- The secret is the base64 text of a KEK. -/
def HoldsKek (secret : Except Exn String) : Prop :=
  ∃ kek_b64 kek, secret = .ok kek_b64 ∧ b64decode_str kek_b64 = some kek ∧ kek.length = KEY_SIZE

/-! ## The column -/

/-- A stored value, with the plaintext that was written. -/
structure Row where
  plaintext : Option String
  stored : Option String
  deriving DecidableEq

/-- A process and the rows of an encrypted column. -/
structure Column where
  service : Option CryptoService
  draws : Nat
  rows : List Row

/-- `get_crypto_service` finds no service. -/
def not_initialised : Exn :=
  .other "RuntimeError"
    "CryptoService is not initialised.  Call configure_crypto() at startup."

/-- `data.decode()`. -/
def decode (data : Bytes) : Except Exn String :=
  match decode_utf8 data with
  | none => .error (.other "UnicodeDecodeError" "")
  | some s => .ok s

namespace Column

variable (env : CryptoEnv) (w : Column)

/-- A process starts. -/
def restart (secret : Except Exn String) : Column :=
  { w with service := lifespan_crypto env secret w.draws }

def set_session (s : Session) : Column := { w with service := some s.service, draws := s.draws }

/-- `process_bind_param`. -/
def process_bind_param : Option String → Except Exn (Option String) × Column
  | none => (.ok none, w)
  | some value =>
    match w.service with
    | none => (.error not_initialised, w)
    | some svc =>
      let (token, s) := Session.encrypt env ⟨svc, w.draws⟩ (encode_utf8 value)
      ((token.bind decode).map some, w.set_session s)

/-- `process_result_value`. -/
def process_result_value : Option String → Except Exn (Option String) × Column
  | none => (.ok none, w)
  | some value =>
    match w.service with
    | none => (.error not_initialised, w)
    | some svc =>
      let (plaintext, s) := Session.decrypt env ⟨svc, w.draws⟩ (encode_utf8 value)
      ((plaintext.bind decode).map some, w.set_session s)

end Column

/-- What a process does with the column. -/
inductive ColumnCall where
  | write (value : Option String)
  | read (row : Nat)

namespace Column

variable (env : CryptoEnv)

/-- A value whose encryption fails is not stored. -/
def call (w : Column) : ColumnCall → Column
  | .write value =>
    match w.process_bind_param env value with
    | (.error _, w') => w'
    | (.ok stored, w') => { w' with rows := w'.rows ++ [⟨value, stored⟩] }
  | .read row =>
    match w.rows[row]? with
    | none => w
    | some r => (w.process_result_value env r.stored).2

/-- The calls of one process. -/
def after (w : Column) : List ColumnCall → Column
  | [] => w
  | c :: cs => (w.call env c).after cs

/-- Processes one after the other, all with the same secret. -/
def lifetimes (secret : Except Exn String) (w : Column) : List (List ColumnCall) → Column
  | [] => w
  | calls :: rest => (((w.restart env secret).after env calls)).lifetimes secret rest

/-- No process has run. -/
def empty : Column := ⟨none, 0, []⟩

/-- **The data survives.** In every process, at every moment, each value that an earlier process
    stored is read back. -/
def Survives (secret : Except Exn String) (runs : List (List ColumnCall)) : Prop :=
  ∀ earlier current later, runs = earlier ++ current :: later → ∀ pre post, current = pre ++ post →
    ∀ row ∈ (empty.lifetimes env secret earlier).rows,
      ((((empty.lifetimes env secret earlier).restart env secret).after env pre).process_result_value
        env row.stored).1 = .ok row.plaintext

end Column

/-- `os.urandom` never repeats a data key, up to its `n`-th call. -/
def FreshKeys (env : CryptoEnv) (n : Nat) : Prop :=
  ∀ i j, i < j → j ≤ n → env.urandom i KEY_SIZE ≠ env.urandom j KEY_SIZE

/-! ## The text of a token -/

/-- ASCII text has one byte for each character. -/
theorem encode_utf8_ascii (cs : List Char) (h : ∀ c ∈ cs, c.toNat < 128) :
    encode_utf8 (String.ofList cs) = cs.map char_byte := by
  have hchars : cs.flatMap String.utf8EncodeChar = cs.map char_byte := by
    rw [← List.flatMap_singleton' (cs.map char_byte), List.flatMap_map]
    refine List.flatMap_congr ?_
    intro c hc
    have hsize : c.utf8Size = 1 := Char.utf8Size_eq_one_iff.mpr (by
      have hval := h c hc
      exact UInt32.le_iff_toNat_le.mpr (by simpa using Nat.le_of_lt_succ hval))
    rw [String.utf8EncodeChar_eq_singleton hsize]
    rfl
  unfold encode_utf8
  rw [String.toByteArray_ofList, List.utf8Encode, hchars]
  simp

/-- A token is ASCII text, so it is stored as it is. -/
theorem decode_b64encode (bs : Bytes) : ∃ text, decode (b64encode bs) = .ok text ∧
    encode_utf8 text = b64encode bs := by
  have hascii : ∀ c ∈ (urlsafe_b64encode bs).map std_char, c.toNat < 128 := by
    intro c hc
    obtain ⟨c', hc', rfl⟩ := List.mem_map.mp hc
    exact std_char_ascii (encode_char hc')
  have htext := encode_utf8_ascii _ hascii
  refine ⟨String.ofList ((urlsafe_b64encode bs).map std_char), ?_, htext⟩
  unfold decode b64encode
  rw [← htext, decode_encode_utf8]

/-! ## Where the data key comes from -/

section drawn
variable {env : CryptoEnv} {s : Session} {w : Column}

/-- The data key was drawn by an earlier call of `urandom`. -/
def Session.Drawn (env : CryptoEnv) (s : Session) : Prop :=
  ∀ dek, s.service.dek = some dek → ∃ n < s.draws, dek = env.urandom n KEY_SIZE

theorem Session.Drawn.sized (h : s.Drawn env) : s.Sized := by
  intro dek hdek
  obtain ⟨n, -, rfl⟩ := h dek hdek
  exact env.urandom_length _ _

theorem Session.Drawn.get_dek (h : s.Drawn env) :
    (s.get_dek env).2.Drawn env ∧ s.draws ≤ (s.get_dek env).2.draws := by
  unfold Session.get_dek
  cases hdek : s.service.dek with
  | some dek => exact ⟨h, le_rfl⟩
  | none =>
    refine ⟨?_, Nat.le_succ _⟩
    intro dek hset
    exact ⟨s.draws, Nat.lt_succ_self _, (Option.some.inj hset).symm⟩

theorem Session.Drawn.encrypt (h : s.Drawn env) (plaintext : Bytes) :
    (s.encrypt env plaintext).2.Drawn env ∧ s.draws ≤ (s.encrypt env plaintext).2.draws := by
  obtain ⟨hdrawn, hle⟩ := h.get_dek
  refine ⟨?_, hle.trans (Nat.le_succ _)⟩
  intro dek hdek
  obtain ⟨n, hn, hvalue⟩ := hdrawn dek hdek
  exact ⟨n, hn.trans (Nat.lt_succ_self _), hvalue⟩

theorem Session.Drawn.decrypt (h : s.Drawn env) (token : Bytes) :
    (s.decrypt env token).2.Drawn env ∧ s.draws ≤ (s.decrypt env token).2.draws := by
  unfold Session.decrypt
  cases b64decode token with
  | none => exact ⟨h, le_rfl⟩
  | some raw => exact h.get_dek

/-- The same of the service of a process. -/
def Column.Drawn (env : CryptoEnv) (w : Column) : Prop :=
  ∀ svc, w.service = some svc → Session.Drawn env ⟨svc, w.draws⟩

theorem set_session_drawn (w : Column) (h : s.Drawn env) : (w.set_session s).Drawn env := by
  intro svc hsvc
  cases hsvc
  exact h

/-- A process that starts has no data key yet. -/
theorem lifespan_crypto_dek {secret : Except Exn String} {draws : Nat} {svc : CryptoService}
    (h : lifespan_crypto env secret draws = some svc) : svc.dek = none := by
  unfold lifespan_crypto configure_crypto CryptoService.new at h
  cases secret with
  | error e => cases h
  | ok kek_b64 =>
    simp only at h
    split at h
    · cases h
    · split at h
      · cases h
      · next svc' hnew =>
        split at hnew
        · cases hnew
          cases h
          rfl
        · cases hnew

/-- It has a service if and only if the secret holds a KEK. -/
theorem lifespan_crypto_isSome (env : CryptoEnv) (secret : Except Exn String) (draws : Nat) :
    (∃ svc, lifespan_crypto env secret draws = some svc) ↔ HoldsKek secret := by
  unfold lifespan_crypto configure_crypto CryptoService.new HoldsKek
  cases secret with
  | error e => simp
  | ok kek_b64 =>
    cases hkek : b64decode_str kek_b64 with
    | none => simp [hkek]
    | some kek =>
      by_cases hsize : kek.length = KEY_SIZE
      · simp [hkek, hsize, Except.toOption]
      · simp [hkek, hsize, Except.toOption]

theorem Column.Drawn.restart (secret : Except Exn String) : (w.restart env secret).Drawn env := by
  intro svc hsvc dek hdek
  rw [show svc.dek = none from lifespan_crypto_dek hsvc] at hdek
  cases hdek

end drawn

/-! ## One call -/

section one_call
variable {env : CryptoEnv} {w : Column}

/-- The row holds a value sealed under a data key that was drawn before. -/
def SealedRow (env : CryptoEnv) (draws : Nat) (row : Row) : Prop :=
  ∃ value text n, row = ⟨some value, some text⟩ ∧ n < draws ∧
    Sealed env (env.urandom n KEY_SIZE) (encode_utf8 value) (encode_utf8 text)

/-- What a write of a value does: without a service, or when the value is too long, it stores nothing;
    otherwise it stores the value sealed under the data key. -/
theorem write_some (h : w.Drawn env) (value : String) :
    let w' := w.call env (.write (some value))
    w'.Drawn env ∧ w.draws ≤ w'.draws ∧ (w'.service.isSome = w.service.isSome) ∧
      ((w'.rows = w.rows ∧ (w.service = none ∨ MAX_SIZE < (encode_utf8 value).length)) ∨
        ∃ row, w'.rows = w.rows ++ [row] ∧ SealedRow env w'.draws row ∧ w.service ≠ none ∧
          (encode_utf8 value).length ≤ MAX_SIZE) := by
  intro w'
  cases hservice : w.service with
  | none =>
    have hcall : w' = w := by
      simp only [w', Column.call, Column.process_bind_param, hservice]
    rw [hcall]
    exact ⟨h, le_rfl, by rw [hservice], .inl ⟨rfl, .inl rfl⟩⟩
  | some svc =>
    have hsession := h svc hservice
    obtain ⟨hdrawn, hle⟩ := hsession.encrypt (encode_utf8 value)
    obtain ⟨⟨dek, hdek, hsize, hsealed⟩, -⟩ := encrypt_spec hsession.sized (encode_utf8 value)
    obtain ⟨n, hn, hvalue⟩ := hdrawn dek hdek
    obtain ⟨hfits, bs, htoken⟩ | ⟨hlong, e, hfail⟩ := aesgcm_encrypt_cases
      (get_dek_sized env hsession.sized) (env.urandom_length _ _) (encode_utf8 value)
    · change (Session.encrypt env ⟨svc, w.draws⟩ (encode_utf8 value)).1 = .ok (b64encode bs) at htoken
      obtain ⟨text, htext, hbytes⟩ := decode_b64encode bs
      have hcall : w' = { w.set_session (Session.encrypt env ⟨svc, w.draws⟩ (encode_utf8 value)).2
          with rows := w.rows ++ [⟨some value, some text⟩] } := by
        simp only [w', Column.call, Column.process_bind_param, hservice, htoken, Except.bind, htext,
          Except.map]
        rfl
      rw [hcall]
      refine ⟨set_session_drawn w hdrawn, hle, rfl, .inr ⟨_, rfl, ?_, by simp, hfits⟩⟩
      refine ⟨value, text, n, rfl, hn, ?_⟩
      rw [← hvalue, hbytes]
      exact hsealed _ htoken
    · change (Session.encrypt env ⟨svc, w.draws⟩ (encode_utf8 value)).1 = .error e at hfail
      have hcall : w' = w.set_session (Session.encrypt env ⟨svc, w.draws⟩ (encode_utf8 value)).2 := by
        simp only [w', Column.call, Column.process_bind_param, hservice, hfail, Except.bind, Except.map]
      rw [hcall]
      exact ⟨set_session_drawn w hdrawn, hle, rfl, .inl ⟨rfl, .inr hlong⟩⟩

/-- A read leaves the rows as they are. -/
theorem read_row (h : w.Drawn env) (row : Nat) :
    let w' := w.call env (.read row)
    w'.Drawn env ∧ w.draws ≤ w'.draws ∧ (w'.service.isSome = w.service.isSome) ∧
      w'.rows = w.rows := by
  intro w'
  have hsame : w.Drawn env ∧ w.draws ≤ w.draws ∧ (w.service.isSome = w.service.isSome) ∧
      w.rows = w.rows := ⟨h, le_rfl, rfl, rfl⟩
  simp only [w', Column.call]
  cases w.rows[row]? with
  | none => exact hsame
  | some r =>
    simp only
    cases r.stored with
    | none => exact hsame
    | some text =>
      cases hservice : w.service with
      | none =>
        simp only [Column.process_result_value, hservice]
        exact ⟨h, le_rfl, trivial, trivial⟩
      | some svc =>
        obtain ⟨hdrawn, hle⟩ := (h svc hservice).decrypt (encode_utf8 text)
        simp only [Column.process_result_value, hservice]
        exact ⟨set_session_drawn w hdrawn, hle, rfl, rfl⟩

end one_call

/-! ## A run of processes -/

section runs
variable {env : CryptoEnv} {secret : Except Exn String} {w : Column}

/-- A row without a value. -/
def NullRow (row : Row) : Prop := row.plaintext = none ∧ row.stored = none

/-- The call stores a value, if there is a service. -/
def ColumnCall.stores : ColumnCall → Prop
  | .write (some value) => (encode_utf8 value).length ≤ MAX_SIZE
  | _ => False

/-- One call: rows are appended, with a value only by a call that stores one. -/
theorem call_rows (h : w.Drawn env) (c : ColumnCall) :
    (w.call env c).Drawn env ∧ w.draws ≤ (w.call env c).draws ∧
      ((w.call env c).service.isSome = w.service.isSome) ∧
      ∃ rows, (w.call env c).rows = w.rows ++ rows ∧
        ((∀ row ∈ rows, NullRow row) ∧ (w.service = none ∨ ¬ c.stores) ∨
          ∃ row ∈ rows, SealedRow env (w.call env c).draws row ∧ w.service ≠ none ∧ c.stores) := by
  cases c with
  | write value =>
    cases value with
    | none =>
      refine ⟨h, le_rfl, rfl, [⟨none, none⟩], rfl, .inl ⟨?_, .inr id⟩⟩
      intro row hrow
      rw [List.mem_singleton.mp hrow]
      exact ⟨rfl, rfl⟩
    | some value =>
      obtain ⟨hdrawn, hle, hservice, ⟨hrows, hnot⟩ | ⟨row, hrows, hsealed, hsome, hfits⟩⟩ :=
        write_some h value
      · refine ⟨hdrawn, hle, hservice, [], by rw [hrows, List.append_nil], .inl ⟨by simp, ?_⟩⟩
        exact hnot.imp id fun hlong hfits => absurd hfits (not_le.mpr hlong)
      · exact ⟨hdrawn, hle, hservice, [row], hrows,
          .inr ⟨row, List.mem_singleton_self row, hsealed, hsome, hfits⟩⟩
  | read row =>
    obtain ⟨hdrawn, hle, hservice, hrows⟩ := read_row h row
    exact ⟨hdrawn, hle, hservice, [], by rw [hrows, List.append_nil], .inl ⟨by simp, .inr id⟩⟩

theorem SealedRow.later {draws draws' : Nat} {row : Row} (h : SealedRow env draws row)
    (hle : draws ≤ draws') : SealedRow env draws' row := by
  obtain ⟨value, text, n, hrow, hn, hsealed⟩ := h
  exact ⟨value, text, n, hrow, hn.trans_le hle, hsealed⟩

/-- The calls of one process: it stores a value if and only if one of the calls does. -/
theorem after_rows (calls : List ColumnCall) : ∀ {w : Column}, w.Drawn env →
    (w.after env calls).Drawn env ∧ w.draws ≤ (w.after env calls).draws ∧
      ∃ rows, (w.after env calls).rows = w.rows ++ rows ∧
        ((∀ row ∈ rows, NullRow row) ∧ (w.service = none ∨ ∀ c ∈ calls, ¬ c.stores) ∨
          ∃ row ∈ rows, SealedRow env (w.after env calls).draws row ∧ w.service ≠ none ∧
            ∃ c ∈ calls, c.stores) := by
  induction calls with
  | nil =>
    intro w h
    exact ⟨h, le_rfl, [], (List.append_nil _).symm, .inl ⟨by simp, .inr (by simp)⟩⟩
  | cons c cs ih =>
    intro w h
    obtain ⟨hdrawn, hle, hservice, rows, hrows, hkind⟩ := call_rows h c
    obtain ⟨hdrawn', hle', rows', hrows', hkind'⟩ := ih hdrawn
    refine ⟨hdrawn', hle.trans hle', rows ++ rows', ?_, ?_⟩
    · rw [Column.after, hrows', hrows, List.append_assoc]
    · obtain ⟨hnull, hnot⟩ | ⟨row, hrow, hsealed, hsome, hstores⟩ := hkind
      · obtain ⟨hnull', hnot'⟩ | ⟨row, hrow, hsealed, hsome, c', hc', hstores⟩ := hkind'
        · refine .inl ⟨?_, ?_⟩
          · intro row hrow
            obtain hrow | hrow := List.mem_append.mp hrow
            · exact hnull row hrow
            · exact hnull' row hrow
          · by_cases hnone : w.service = none
            · exact .inl hnone
            · -- the service stays, so no call of either part stores a value
              have hnone' : (w.call env c).service ≠ none := by
                rw [← Option.isSome_iff_ne_none, hservice, Option.isSome_iff_ne_none]
                exact hnone
              refine .inr ?_
              intro c' hc'
              obtain rfl | hc' := List.mem_cons.mp hc'
              · exact hnot.resolve_left hnone
              · exact (hnot'.resolve_left hnone') c' hc'
        · rw [← Option.isSome_iff_ne_none, hservice, Option.isSome_iff_ne_none] at hsome
          exact .inr ⟨row, List.mem_append_right _ hrow, hsealed, hsome, c',
            List.mem_cons_of_mem _ hc', hstores⟩
      · exact .inr ⟨row, List.mem_append_left _ hrow, hsealed.later hle', hsome, c,
          List.mem_cons_self, hstores⟩

/-- One process, from its start. -/
theorem process_rows (env : CryptoEnv) (secret : Except Exn String) (w : Column)
    (calls : List ColumnCall) :
    let w' := (w.restart env secret).after env calls
    w.draws ≤ w'.draws ∧ ∃ rows, w'.rows = w.rows ++ rows ∧
      ((∀ row ∈ rows, NullRow row) ∧ (¬ HoldsKek secret ∨ ∀ c ∈ calls, ¬ c.stores) ∨
        ∃ row ∈ rows, SealedRow env w'.draws row ∧ HoldsKek secret ∧ ∃ c ∈ calls, c.stores) := by
  intro w'
  have hstart : (w.restart env secret).service ≠ none ↔ HoldsKek secret := by
    rw [← lifespan_crypto_isSome env secret w.draws, Option.ne_none_iff_exists']
    rfl
  obtain ⟨-, hle, rows, hrows, hkind⟩ := after_rows calls (Column.Drawn.restart (w := w) secret)
  refine ⟨hle, rows, hrows, ?_⟩
  rw [hstart] at hkind
  rw [← hstart, not_not]
  rwa [← hstart] at hkind

theorem lifetimes_append (w : Column) (earlier later : List (List ColumnCall)) :
    w.lifetimes env secret (earlier ++ later) =
      (w.lifetimes env secret earlier).lifetimes env secret later := by
  induction earlier generalizing w with
  | nil => rfl
  | cons calls rest ih => exact ih _

theorem lifetimes_draws (runs : List (List ColumnCall)) : ∀ (w : Column),
    w.draws ≤ (w.lifetimes env secret runs).draws := by
  induction runs with
  | nil => exact fun _ => le_rfl
  | cons calls rest ih =>
    intro w
    exact (process_rows env secret w calls).1.trans (ih _)

/-- Where no process stores a value, all rows are null. -/
theorem lifetimes_null (runs : List (List ColumnCall))
    (h : ¬ HoldsKek secret ∨ ∀ calls ∈ runs, ∀ c ∈ calls, ¬ c.stores) : ∀ (w : Column),
    (∀ row ∈ w.rows, NullRow row) → ∀ row ∈ (w.lifetimes env secret runs).rows, NullRow row := by
  induction runs with
  | nil => exact fun _ hnull => hnull
  | cons calls rest ih =>
    intro w hnull
    refine ih (h.imp id fun hall calls' hmem => hall calls' (List.mem_cons_of_mem _ hmem)) _ ?_
    obtain ⟨-, rows, hrows, ⟨hnew, -⟩ | ⟨row, -, -, hkek, c, hc, hstores⟩⟩ :=
      process_rows env secret w calls
    · intro row hrow
      rw [hrows, List.mem_append] at hrow
      exact hrow.elim (hnull row) (hnew row)
    · obtain hnot | hall := h
      · exact absurd hkek hnot
      · exact absurd hstores (hall calls List.mem_cons_self c hc)

/-- A process that starts does not read a value that was sealed before. -/
theorem read_after_restart {draws : Nat} {row : Row} (hrow : SealedRow env draws row)
    (hle : draws ≤ w.draws) (hfresh : FreshKeys env w.draws) :
    ((w.restart env secret).process_result_value env row.stored).1 ≠ .ok row.plaintext := by
  obtain ⟨value, text, n, rfl, hn, hsealed⟩ := hrow
  unfold Column.process_result_value
  cases hservice : (w.restart env secret).service with
  | none => simp
  | some svc =>
    -- the new process has no data key, and draws one
    have hdek : svc.dek = none := lifespan_crypto_dek hservice
    have hget : (Session.get_dek env ⟨svc, (w.restart env secret).draws⟩).1 =
        env.urandom w.draws KEY_SIZE := by
      unfold Session.get_dek
      simp only [hdek]
      rfl
    obtain ⟨raw, hraw, -⟩ := hsealed.reads (env.urandom_length _ _) decryption_failed
    simp only [Session.decrypt, hraw, hget]
    cases hread : Session.aesgcm_decrypt env (env.urandom w.draws KEY_SIZE) raw decryption_failed with
    | error e => simp [Except.bind, Except.map]
    | ok data =>
      -- only the same key could read it
      have hsame := hsealed.key_eq (env.urandom_length _ _) (env.urandom_length _ _) hraw hread
      exact absurd hsame.symm (hfresh n w.draws (hn.trans_le hle) le_rfl)

end runs

/-- **Encrypted data survives only where there is none.** Any processes one after the other, all with
    the same secret, and data keys that `os.urandom` never repeats: every value that a process
    stores is read back in every later process if and only if no process but the last writes a
    value (other than `None`, and short enough to be encrypted), or the secret holds no KEK, so
    that nothing is ever stored. -/
theorem survives_restarts_iff (env : CryptoEnv) (secret : Except Exn String)
    (runs : List (List ColumnCall))
    (hfresh : FreshKeys env (Column.empty.lifetimes env secret runs).draws) :
    Column.Survives env secret runs ↔
      ¬ HoldsKek secret ∨ ∀ earlier current later, runs = earlier ++ current :: later →
        later ≠ [] → ∀ c ∈ current, ¬ c.stores := by
  constructor
  · intro hsurvives
    by_cases hkek : HoldsKek secret
    · refine .inr ?_
      intro earlier current later hruns hlater c hc hstores
      cases later with
      | nil => exact absurd rfl hlater
      | cons next rest =>
        obtain ⟨-, rows, hrows, ⟨-, hnot⟩ | ⟨row, hrow, hsealed, -⟩⟩ :=
          process_rows env secret (Column.empty.lifetimes env secret earlier) current
        · exact (hnot.resolve_left (not_not.mpr hkek)) c hc hstores
        · -- the next process asks for that row before it does anything else
          have hsplit : runs = (earlier ++ [current]) ++ next :: rest := by
            rw [hruns, List.append_assoc]
            rfl
          have hstate : Column.empty.lifetimes env secret (earlier ++ [current]) =
              ((Column.empty.lifetimes env secret earlier).restart env secret).after env current := by
            rw [lifetimes_append]
            rfl
          have hmem : row ∈ (Column.empty.lifetimes env secret (earlier ++ [current])).rows := by
            rw [hstate, hrows]
            exact List.mem_append_right _ hrow
          have hdraws : _ ≤ (Column.lifetimes env secret _ (next :: rest)).draws :=
            lifetimes_draws (next :: rest) (Column.empty.lifetimes env secret (earlier ++ [current]))
          rw [← lifetimes_append, ← hsplit] at hdraws
          have hread := hsurvives _ next rest hsplit [] next rfl row hmem
          refine read_after_restart hsealed (le_of_eq (by rw [hstate])) ?_ hread
          intro i j hij hj
          exact hfresh i j hij (hj.trans hdraws)
    · exact .inl hkek
  · intro h earlier current later hruns pre post _ row hrow
    -- what earlier processes have left is null
    have hnull := lifetimes_null earlier (h.imp id fun hall calls hmem => by
      obtain ⟨before, after, rfl⟩ := List.append_of_mem hmem
      exact hall before calls (after ++ current :: later) (by rw [hruns]; simp) (by simp))
      Column.empty (by simp [Column.empty]) row hrow
    rw [hnull.1, hnull.2]
    rfl

/-! ## Two processes -/

/-- A number is encrypted under the first data key. -/
def column_samples : Samples where
  list :=
    [⟨List.replicate 32 1, List.replicate 12 2, encode_utf8 "123-45-6789",
        [0x36, 0xe4, 0xfa, 0x64, 0x7e, 0x62, 0xec, 0xcb, 0xe4, 0xf4, 0x85, 0x37, 0x61, 0xad, 0x4f,
          0x94, 0x9a, 0xbf, 0x56, 0x8d, 0x4f, 0xa6, 0xa5, 0x96, 0x84, 0xf5, 0x67]⟩]
  short := by decide
  marked := by decide
  apart := by decide

/-- A key of 32 zero bytes. -/
def test_kek : Except Exn String := .ok "AAAAAAAAAAAAAAAAAAAAAAAAAAAAAAAAAAAAAAAAAAA="

/-- The first process writes no number, and the second one reads its own. -/
theorem last_process_survives :
    Column.Survives column_samples.env test_kek
      [[.write none, .read 0], [.write (some "123-45-6789"), .read 1]] := by
  have hdraws : (Column.empty.lifetimes column_samples.env test_kek
      [[.write none, .read 0], [.write (some "123-45-6789"), .read 1]]).draws = 2 := by
    decide +kernel
  refine (survives_restarts_iff column_samples.env test_kek _ ?_).mpr (.inr ?_)
  · rw [hdraws]
    have hapart : ∀ j ≤ 2, ∀ i < j, column_samples.env.urandom i KEY_SIZE ≠
        column_samples.env.urandom j KEY_SIZE := by
      decide
    exact fun i j hij hj => hapart j hj i hij
  · intro earlier current later hruns hlater c hc
    match earlier with
    | [] =>
      cases hruns
      simp only [List.mem_cons, List.not_mem_nil, or_false] at hc
      obtain rfl | rfl := hc
      · exact id
      · exact id
    | [_] =>
      cases hruns
      exact absurd rfl hlater
    | _ :: _ :: _ => simp at hruns

/-- The second process cannot decrypt the number that the first one wrote. -/
theorem number_lost_by_restart :
    ¬ Column.Survives column_samples.env test_kek [[.write (some "123-45-6789")], []] := by
  intro h
  have hread := h [[.write (some "123-45-6789")]] [] [] rfl [] [] rfl
    ⟨some "123-45-6789", some "AgICAgICAgICAgICNuT6ZH5i7Mvk9IU3Ya1PlJq/Vo1PpqWWhPVn"⟩
    (by decide +kernel)
  have hfails : (((Column.empty.lifetimes column_samples.env test_kek
      [[.write (some "123-45-6789")]]).restart column_samples.env test_kek).process_result_value
        column_samples.env (some "AgICAgICAgICAgICNuT6ZH5i7Mvk9IU3Ya1PlJq/Vo1PpqWWhPVn")).1 =
      .error decryption_failed := by
    decide +kernel
  cases hread.symm.trans hfails

end CaseAutomation.Security
