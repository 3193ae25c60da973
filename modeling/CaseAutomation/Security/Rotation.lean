import CaseAutomation.Security.Crypto

/-! # Key Rotation

    Any sequence of calls on one `CryptoService`, in which nothing but its own wrapped keys is loaded
    with success. The data key is drawn once and never changes, each token is sealed under it, and
    each wrapped key holds it (`Kept`). So the history stays readable (`history_readable`).
-/

namespace CaseAutomation.Security

open Orchestrator

/-! ## Calls -/

/-- The public methods of `CryptoService`. -/
inductive CryptoCall where
  | encrypt (plaintext : Bytes)
  | decrypt (token : Bytes)
  | wrap_dek
  | rotate_kek (new_kek : Bytes)
  | load_wrapped_dek (wrapped : Bytes)
  deriving DecidableEq

/-- What a call returns; `load_wrapped_dek` returns `None`. -/
abbrev CryptoResult := Except Exn (Option Bytes)

/-- The call rotates the KEK or loads a DEK. -/
def CryptoCall.changes_keys : CryptoCall → Prop
  | .rotate_kek _ | .load_wrapped_dek _ => True
  | _ => False

/-- The call returns a wrapped DEK. -/
def CryptoCall.wraps : CryptoCall → Prop
  | .wrap_dek | .rotate_kek _ => True
  | _ => False

namespace Session

variable (env : CryptoEnv)

/-- One call. -/
def call (s : Session) : CryptoCall → CryptoResult × Session
  | .encrypt plaintext => ((s.encrypt env plaintext).1.map some, (s.encrypt env plaintext).2)
  | .decrypt token => ((s.decrypt env token).1.map some, (s.decrypt env token).2)
  | .wrap_dek => ((s.wrap_dek env).1.map some, (s.wrap_dek env).2)
  | .rotate_kek new_kek => ((s.rotate_kek env new_kek).1.map some, (s.rotate_kek env new_kek).2)
  | .load_wrapped_dek wrapped =>
    ((s.load_wrapped_dek env wrapped).1.map fun _ => none, (s.load_wrapped_dek env wrapped).2)

/-- The service after a sequence of calls. -/
def after (s : Session) : List CryptoCall → Session
  | [] => s
  | c :: cs => ((s.call env c).2).after cs

/-- The calls with what they returned. -/
def trace (s : Session) : List CryptoCall → List (CryptoCall × CryptoResult)
  | [] => []
  | c :: cs => (c, (s.call env c).1) :: ((s.call env c).2).trace cs

end Session

/-- Only wrapped DEKs that the service returned before are loaded with success (or bytes that decode
    like one of them). -/
def OwnLoads (env : CryptoEnv) (s : Session) (calls : List CryptoCall) : Prop :=
  ∀ pre wrapped post, calls = pre ++ .load_wrapped_dek wrapped :: post →
    ((s.after env pre).call env (.load_wrapped_dek wrapped)).1 = .ok none →
    ∃ c own, (c, .ok (some own)) ∈ s.trace env pre ∧ c.wraps ∧ b64decode own = b64decode wrapped

/-! ## The data key -/

section data_key
variable {env : CryptoEnv} {s : Session}

/-- The data key has the right size, once it is there. -/
def Session.Sized (s : Session) : Prop := ∀ dek, s.service.dek = some dek → dek.length = KEY_SIZE

/-- A data key that is there stays, in `s'`. -/
def Session.SameKey (s s' : Session) : Prop :=
  ∀ dek, s.service.dek = some dek → s'.service.dek = some dek

theorem Session.Sized.of_dek {dek : Bytes} (h : s.service.dek = some dek)
    (hsize : dek.length = KEY_SIZE) : s.Sized := by
  intro dek' hdek'
  cases h.symm.trans hdek'
  exact hsize

/-- The data key is drawn unless it is there; everything else is left as it is. -/
theorem get_dek_spec (env : CryptoEnv) (s : Session) :
    ((s.get_dek env).2.service.dek = some (s.get_dek env).1 ∧
      (s.get_dek env).2.service.kek = s.service.kek) ∧ s.SameKey (s.get_dek env).2 := by
  unfold Session.get_dek
  cases hdek : s.service.dek with
  | some dek => exact ⟨⟨hdek, rfl⟩, fun _ h => h⟩
  | none => exact ⟨⟨rfl, rfl⟩, fun _ h => by cases hdek.symm.trans h⟩

theorem get_dek_sized (env : CryptoEnv) (h : s.Sized) : (s.get_dek env).1.length = KEY_SIZE := by
  unfold Session.get_dek
  cases hdek : s.service.dek with
  | some dek => exact h dek hdek
  | none => exact env.urandom_length _ _

/-- The keys after a call of `urandom`. -/
theorem urandom_service (env : CryptoEnv) (s : Session) (size : Nat) :
    (s.urandom env size).2.service = s.service := rfl

/-- `encrypt` seals under the data key, which is there from then on. -/
theorem encrypt_spec (h : s.Sized) (plaintext : Bytes) :
    (∃ dek, (s.encrypt env plaintext).2.service.dek = some dek ∧ dek.length = KEY_SIZE ∧
      ∀ token, (s.encrypt env plaintext).1 = .ok token → Sealed env dek plaintext token) ∧
    s.SameKey (s.encrypt env plaintext).2 := by
  obtain ⟨⟨hdek, -⟩, hsame⟩ := get_dek_spec env s
  refine ⟨⟨_, hdek, get_dek_sized env h, ?_⟩, hsame⟩
  intro token htoken
  exact .of_encrypt (get_dek_sized env h) (env.urandom_length _ _) htoken

/-- `wrap_dek` seals the data key under the current KEK. -/
theorem wrap_dek_spec (h : s.Sized) :
    (∃ dek, (s.wrap_dek env).2.service.dek = some dek ∧ dek.length = KEY_SIZE ∧
      ∃ wrapped, (s.wrap_dek env).1 = .ok wrapped ∧ Sealed env s.service.kek dek wrapped) ∧
    s.SameKey (s.wrap_dek env).2 ∧ (s.wrap_dek env).2.service.kek = s.service.kek := by
  obtain ⟨⟨hdek, hkek⟩, hsame⟩ := get_dek_spec env s
  have hsize := get_dek_sized env h
  refine ⟨⟨_, hdek, hsize, ?_⟩, hsame, hkek⟩
  -- a key is never too long to be wrapped
  have hshort : (s.get_dek env).1.length ≤ MAX_SIZE := by
    rw [hsize]
    decide
  obtain ⟨-, bs, hwrapped⟩ | ⟨hlong, -⟩ := aesgcm_encrypt_cases s.service.kek_size
    (env.urandom_length (s.get_dek env).2.draws NONCE_SIZE) (s.get_dek env).1
  · refine ⟨b64encode bs, ?_, .of_encrypt s.service.kek_size (env.urandom_length _ _) hwrapped⟩
    unfold Session.wrap_dek
    simp only [urandom_service, hkek]
    exact hwrapped
  · omega

/-- A load that succeeds has unsealed the bytes under the KEK. -/
theorem load_wrapped_dek_cases (env : CryptoEnv) (s : Session) (wrapped : Bytes) :
    (∃ e, s.load_wrapped_dek env wrapped = (.error e, s)) ∨
      ∃ raw dek, s.load_wrapped_dek env wrapped = (.ok (), s.set_dek dek) ∧
        b64decode wrapped = some raw ∧
        Session.aesgcm_decrypt env s.service.kek raw unwrap_failed = .ok dek := by
  unfold Session.load_wrapped_dek
  cases hraw : b64decode wrapped with
  | none => exact .inl ⟨_, rfl⟩
  | some raw =>
    simp only
    cases hdek : Session.aesgcm_decrypt env s.service.kek raw unwrap_failed with
    | error e => exact .inl ⟨e, rfl⟩
    | ok dek => exact .inr ⟨raw, dek, rfl, rfl, hdek⟩

/-- `rotate_kek` refuses a KEK of the wrong length, and wraps the data key under any other. -/
theorem rotate_kek_cases (h : s.Sized) (new_kek : Bytes) :
    (∃ e, s.rotate_kek env new_kek = (.error e, s)) ∨
      ∃ wrapped s' dek, s.rotate_kek env new_kek = (.ok wrapped, s') ∧
        new_kek.length = KEY_SIZE ∧ s'.service.dek = some dek ∧ dek.length = KEY_SIZE ∧
        Sealed env new_kek dek wrapped ∧ s.SameKey s' ∧ s'.service.kek = new_kek := by
  unfold Session.rotate_kek
  by_cases hsize : new_kek.length = KEY_SIZE
  · rw [dif_pos hsize]
    simp only
    obtain ⟨⟨hdek, -⟩, hsame⟩ := get_dek_spec env s
    have hsized : ((s.get_dek env).2.set_kek new_kek hsize).Sized := by
      intro dek hset
      cases hdek.symm.trans hset
      exact get_dek_sized env h
    obtain ⟨⟨dek, hdek', hlen, wrapped, hwrapped, hsealed⟩, hkept, hkek⟩ :=
      wrap_dek_spec hsized
    rcases hwrap : ((s.get_dek env).2.set_kek new_kek hsize).wrap_dek env with ⟨r, s'⟩
    rw [hwrap] at hdek' hwrapped hkept hkek
    cases hwrapped
    exact .inr ⟨wrapped, s', dek, rfl, hsize, hdek', hlen, hsealed,
      fun dek hd => hkept dek (hsame dek hd), hkek⟩
  · rw [dif_neg hsize]
    exact .inl ⟨_, rfl⟩

/-- `decrypt` returns a plaintext or raises `DecryptionError`. -/
theorem decrypt_spec (env : CryptoEnv) (s : Session) (token : Bytes) :
    ((∃ plaintext, (s.decrypt env token).1 = .ok plaintext) ∨
      (s.decrypt env token).1 = .error decryption_failed) ∧
    s.SameKey (s.decrypt env token).2 ∧ (s.Sized → (s.decrypt env token).2.Sized) := by
  unfold Session.decrypt
  cases hraw : b64decode token with
  | none => exact ⟨.inr rfl, fun _ h => h, id⟩
  | some raw =>
    obtain ⟨⟨hdek, -⟩, hsame⟩ := get_dek_spec env s
    refine ⟨?_, hsame, ?_⟩
    · simp only
      unfold Session.aesgcm_decrypt
      split
      · exact .inr rfl
      · split
        · exact .inr rfl
        · next data _ => exact .inl ⟨data, rfl⟩
    · intro h dek hset
      cases hdek.symm.trans hset
      exact get_dek_sized env h

/-- What is sealed under the data key is decrypted. -/
theorem decrypt_sealed {dek plaintext token : Bytes} (hdek : s.service.dek = some dek)
    (hsize : dek.length = KEY_SIZE) (h : Sealed env dek plaintext token) :
    (s.decrypt env token).1 = .ok plaintext := by
  obtain ⟨raw, hraw, hplain⟩ := h.reads hsize decryption_failed
  have hget : s.get_dek env = (dek, s) := by
    unfold Session.get_dek
    rw [hdek]
  unfold Session.decrypt
  rw [hraw]
  simp only [hget]
  exact hplain

/-- A fresh service with the KEK reads the wrapped key, and has the data key again. -/
theorem load_sealed {dek wrapped : Bytes} (h : Sealed env s.service.kek dek wrapped) :
    s.load_wrapped_dek env wrapped = (.ok (), s.set_dek dek) := by
  obtain ⟨raw, hraw, hplain⟩ := h.reads s.service.kek_size unwrap_failed
  unfold Session.load_wrapped_dek
  rw [hraw]
  simp only [hplain]

end data_key

/-! ## What is kept -/

section kept
variable {env : CryptoEnv} {s s' : Session}

/-- What a call left behind: a token sealed under the data key, or the data key sealed under a KEK,
    which is the new one after a rotation. -/
def Recalls (env : CryptoEnv) (s : Session) : CryptoCall × CryptoResult → Prop
  | (.encrypt plaintext, .ok (some token)) =>
    ∃ dek, s.service.dek = some dek ∧ Sealed env dek plaintext token
  | (.wrap_dek, .ok (some wrapped)) =>
    ∃ dek kek, s.service.dek = some dek ∧ kek.length = KEY_SIZE ∧ Sealed env kek dek wrapped
  | (.rotate_kek new_kek, .ok (some wrapped)) =>
    ∃ dek, s.service.dek = some dek ∧ new_kek.length = KEY_SIZE ∧ Sealed env new_kek dek wrapped
  | _ => True

/-- **The invariant of a run.** -/
structure Kept (env : CryptoEnv) (s : Session) (history : List (CryptoCall × CryptoResult)) :
    Prop where
  sized : s.Sized
  recalls : ∀ entry ∈ history, Recalls env s entry

theorem Recalls.same_key {entry : CryptoCall × CryptoResult} (h : Recalls env s entry)
    (hsame : s.SameKey s') : Recalls env s' entry := by
  obtain ⟨c, r⟩ := entry
  cases r with
  | error e => cases c <;> exact trivial
  | ok value =>
    cases value with
    | none => cases c <;> exact trivial
    | some bytes =>
      cases c with
      | encrypt plaintext =>
        obtain ⟨dek, hdek, hsealed⟩ := h
        exact ⟨dek, hsame dek hdek, hsealed⟩
      | decrypt token => exact trivial
      | wrap_dek =>
        obtain ⟨dek, kek, hdek, hkek, hsealed⟩ := h
        exact ⟨dek, kek, hsame dek hdek, hkek, hsealed⟩
      | rotate_kek new_kek =>
        obtain ⟨dek, hdek, hkek, hsealed⟩ := h
        exact ⟨dek, hsame dek hdek, hkek, hsealed⟩
      | load_wrapped_dek wrapped => exact trivial

/-- What a wrapped key in the history holds. -/
theorem Kept.wrapped {history : List (CryptoCall × CryptoResult)} (h : Kept env s history)
    {c : CryptoCall} {own : Bytes} (hmem : (c, .ok (some own)) ∈ history) (hwraps : c.wraps) :
    ∃ dek kek, s.service.dek = some dek ∧ kek.length = KEY_SIZE ∧ Sealed env kek dek own := by
  have hrecalls := h.recalls _ hmem
  cases c with
  | encrypt plaintext => exact hwraps.elim
  | decrypt token => exact hwraps.elim
  | wrap_dek => exact hrecalls
  | rotate_kek new_kek =>
    obtain ⟨dek, hdek, hkek, hsealed⟩ := hrecalls
    exact ⟨dek, new_kek, hdek, hkek, hsealed⟩
  | load_wrapped_dek wrapped => exact hwraps.elim

/-- A wrapped key of its own gives the service the data key that it has. -/
theorem load_own {history : List (CryptoCall × CryptoResult)} (h : Kept env s history)
    {c : CryptoCall} {own wrapped raw dek : Bytes} (hmem : (c, .ok (some own)) ∈ history)
    (hwraps : c.wraps) (hsame : b64decode own = b64decode wrapped)
    (hraw : b64decode wrapped = some raw)
    (hread : Session.aesgcm_decrypt env s.service.kek raw unwrap_failed = .ok dek) :
    s.service.dek = some dek := by
  obtain ⟨dek', kek, hdek, hkek, hsealed⟩ := h.wrapped hmem hwraps
  -- by authenticity it was wrapped under the current KEK
  obtain rfl := hsealed.key_eq hkek s.service.kek_size (hsame.trans hraw) hread
  obtain ⟨raw', hraw', hplain⟩ := hsealed.reads hkek unwrap_failed
  cases (hsame.trans hraw).symm.trans hraw'
  cases hread.symm.trans hplain
  exact hdek

/-- **One call.** The data key stays, and the call leaves behind what `Recalls` says. -/
theorem call_spec {history : List (CryptoCall × CryptoResult)} (h : Kept env s history)
    (c : CryptoCall)
    (hown : ∀ wrapped, c = .load_wrapped_dek wrapped → (s.call env c).1 = .ok none →
      ∃ c' own, (c', .ok (some own)) ∈ history ∧ c'.wraps ∧ b64decode own = b64decode wrapped) :
    s.SameKey (s.call env c).2 ∧ (s.call env c).2.Sized ∧
      Recalls env (s.call env c).2 (c, (s.call env c).1) := by
  cases c with
  | encrypt plaintext =>
    obtain ⟨⟨dek, hdek, hsize, hsealed⟩, hsame⟩ := encrypt_spec h.sized plaintext
    refine ⟨hsame, .of_dek hdek hsize, ?_⟩
    simp only [Session.call]
    cases htoken : (s.encrypt env plaintext).1 with
    | error e => exact trivial
    | ok token => exact ⟨dek, hdek, hsealed token htoken⟩
  | decrypt token =>
    obtain ⟨-, hsame, hsized⟩ := decrypt_spec env s token
    refine ⟨hsame, hsized h.sized, ?_⟩
    simp only [Session.call]
    cases (s.decrypt env token).1 <;> exact trivial
  | wrap_dek =>
    obtain ⟨⟨dek, hdek, hsize, wrapped, hwrapped, hsealed⟩, hsame, -⟩ :=
      wrap_dek_spec h.sized
    refine ⟨hsame, .of_dek hdek hsize, ?_⟩
    simp only [Session.call, hwrapped]
    exact ⟨dek, s.service.kek, hdek, s.service.kek_size, hsealed⟩
  | rotate_kek new_kek =>
    simp only [Session.call]
    obtain ⟨e, hfail⟩ | ⟨wrapped, s', dek, hrotate, hkek, hdek, hsize, hsealed, hsame, -⟩ :=
      rotate_kek_cases h.sized new_kek
    · rw [hfail]
      exact ⟨fun _ hd => hd, h.sized, trivial⟩
    · rw [hrotate]
      exact ⟨hsame, .of_dek hdek hsize, dek, hdek, hkek, hsealed⟩
  | load_wrapped_dek wrapped =>
    simp only [Session.call] at hown ⊢
    obtain ⟨e, hfail⟩ | ⟨raw, dek, hload, hraw, hread⟩ := load_wrapped_dek_cases env s wrapped
    · rw [hfail]
      exact ⟨fun _ hd => hd, h.sized, trivial⟩
    · rw [hload] at hown ⊢
      obtain ⟨c', own, hmem, hwraps, hsame⟩ := hown wrapped rfl rfl
      have hdek := load_own h hmem hwraps hsame hraw hread
      refine ⟨?_, ?_, trivial⟩
      · intro dek' hdek'
        cases hdek.symm.trans hdek'
        rfl
      · intro dek' hdek'
        cases hdek'
        exact h.sized dek hdek

/-- **A run of calls.** The invariant is kept, whatever happened before. -/
theorem Kept.after (calls : List CryptoCall) : ∀ {s : Session}
    {history : List (CryptoCall × CryptoResult)}, Kept env s history →
    (∀ pre wrapped post, calls = pre ++ .load_wrapped_dek wrapped :: post →
      ((s.after env pre).call env (.load_wrapped_dek wrapped)).1 = .ok none →
      ∃ c own, (c, .ok (some own)) ∈ history ++ s.trace env pre ∧ c.wraps ∧
        b64decode own = b64decode wrapped) →
    Kept env (s.after env calls) (history ++ s.trace env calls) := by
  induction calls with
  | nil =>
    intro s history h _
    rw [Session.trace, List.append_nil]
    exact h
  | cons c cs ih =>
    intro s history h hown
    obtain ⟨hsame, hsized, hrecalls⟩ := call_spec h c (by
      intro wrapped hc hok
      subst hc
      have hfirst := hown [] wrapped cs rfl hok
      rwa [Session.trace, List.append_nil] at hfirst)
    have hnext : Kept env (s.call env c).2 (history ++ [(c, (s.call env c).1)]) := by
      refine ⟨hsized, ?_⟩
      intro entry hentry
      obtain hold | hnew := List.mem_append.mp hentry
      · exact (h.recalls entry hold).same_key hsame
      · rw [List.mem_singleton.mp hnew]
        exact hrecalls
    have hrest := ih hnext (by
      intro pre wrapped post hcs hok
      obtain ⟨c', own, hmem, hwraps⟩ := hown (c :: pre) wrapped post (by rw [hcs]; rfl) hok
      rw [Session.trace, List.append_cons] at hmem
      exact ⟨c', own, hmem, hwraps⟩)
    rw [Session.trace, List.append_cons]
    exact hrest

theorem Kept.of_new (kek : Bytes) (h : kek.length = KEY_SIZE) (draws : Nat) :
    Kept env ⟨⟨kek, h, none⟩, draws⟩ [] :=
  ⟨fun _ hd => (by cases hd), fun _ hm => (by cases hm)⟩

theorem OwnLoads.kept {calls : List CryptoCall} {kek : Bytes} {h : kek.length = KEY_SIZE}
    {draws : Nat} (hown : OwnLoads env ⟨⟨kek, h, none⟩, draws⟩ calls) :
    Kept env (Session.after env ⟨⟨kek, h, none⟩, draws⟩ calls)
      (Session.trace env ⟨⟨kek, h, none⟩, draws⟩ calls) :=
  Kept.after calls (.of_new kek h draws) hown

theorem OwnLoads.take {calls post : List CryptoCall} (hown : OwnLoads env s (calls ++ post)) :
    OwnLoads env s calls := by
  intro pre wrapped rest hcalls
  refine hown pre wrapped (rest ++ post) ?_
  rw [hcalls, List.append_assoc, List.cons_append]

end kept

/-- **Rotation keeps the history readable.** Any calls on a new service, of whose loads only those of its
    own wrapped keys succeed. Every token decrypts; a fresh service with the KEK of a successful
    rotation, the last one or any other, loads the key wrapped by it and decrypts every token;
    a rotation or a load that fails leaves both keys as they were; and `decrypt` fails
    with `DecryptionError` only. -/
theorem history_readable (env : CryptoEnv) (kek : Bytes) (h : kek.length = KEY_SIZE) (draws : Nat)
    (calls : List CryptoCall) (hown : OwnLoads env ⟨⟨kek, h, none⟩, draws⟩ calls) :
    let s : Session := ⟨⟨kek, h, none⟩, draws⟩
    (∀ plaintext token, (.encrypt plaintext, .ok (some token)) ∈ s.trace env calls →
      ((s.after env calls).decrypt env token).1 = .ok plaintext ∧
      ∀ new_kek wrapped, (.rotate_kek new_kek, .ok (some wrapped)) ∈ s.trace env calls →
        ∃ h' : new_kek.length = KEY_SIZE, ∀ draws',
          let loaded := Session.load_wrapped_dek env ⟨⟨new_kek, h', none⟩, draws'⟩ wrapped
          loaded.1 = .ok () ∧ (loaded.2.decrypt env token).1 = .ok plaintext) ∧
    (∀ pre c post, calls = pre ++ c :: post → c.changes_keys →
      (∃ e, ((s.after env pre).call env c).1 = .error e) →
      ((s.after env pre).call env c).2.service = (s.after env pre).service) ∧
    ∀ token, (∃ plaintext, ((s.after env calls).decrypt env token).1 = .ok plaintext) ∨
      ((s.after env calls).decrypt env token).1 = .error decryption_failed := by
  intro s
  have hkept := hown.kept
  refine ⟨?_, ?_, fun token => (decrypt_spec env _ token).1⟩
  · intro plaintext token htoken
    obtain ⟨dek, hdek, hsealed⟩ := hkept.recalls _ htoken
    have hsize := hkept.sized dek hdek
    refine ⟨decrypt_sealed hdek hsize hsealed, ?_⟩
    intro new_kek wrapped hrotated
    obtain ⟨dek', hdek', hkek, hwrapped⟩ := hkept.recalls _ hrotated
    cases hdek.symm.trans hdek'
    refine ⟨hkek, ?_⟩
    intro draws'
    have hload : Session.load_wrapped_dek env ⟨⟨new_kek, hkek, none⟩, draws'⟩ wrapped =
        (.ok (), Session.set_dek ⟨⟨new_kek, hkek, none⟩, draws'⟩ dek) := load_sealed hwrapped
    simp only [hload]
    exact ⟨trivial, decrypt_sealed rfl hsize hsealed⟩
  · intro pre c post hcalls hchanges hfails
    obtain ⟨e, hfails⟩ := hfails
    have hbefore := (OwnLoads.take (hcalls ▸ hown)).kept.sized
    cases c with
    | encrypt plaintext => exact hchanges.elim
    | decrypt token => exact hchanges.elim
    | wrap_dek => exact hchanges.elim
    | rotate_kek new_kek =>
      obtain ⟨e', hfail⟩ | ⟨wrapped, s', dek, hrotate, -⟩ :=
        rotate_kek_cases hbefore new_kek
      · simp only [Session.call, s]
        rw [hfail]
      · simp only [Session.call, s] at hfails
        rw [hrotate] at hfails
        cases hfails
    | load_wrapped_dek wrapped =>
      obtain ⟨e', hfail⟩ | ⟨raw, dek, hload, -⟩ :=
        load_wrapped_dek_cases env (s.after env pre) wrapped
      · simp only [Session.call]
        rw [hfail]
      · simp only [Session.call] at hfails
        rw [hload] at hfails
        cases hfails

/-! ## One rotation -/

/-- A message is encrypted, and the data key is wrapped under a new KEK. -/
def rotation_samples : Samples where
  list :=
    [⟨List.replicate 32 1, List.replicate 12 2, encode_utf8 "old message",
        [0x68, 0xba, 0xad, 0x69, 0x27, 0x32, 0xb2, 0x8e, 0xb2, 0xab, 0xd9, 0x46, 0xd3, 0xe1, 0x53,
          0x36, 0x5d, 0x3c, 0x5d, 0x87, 0x49, 0xb2, 0x23, 0xda, 0x7b, 0xc9, 0xea]⟩,
      ⟨List.replicate 32 90, List.replicate 12 3, List.replicate 32 1,
        [0xab, 0x35, 0x04, 0x10, 0xe9, 0x53, 0xda, 0xe8, 0x6b, 0xd4, 0xb6, 0xcb, 0x3f, 0xea, 0xb6,
          0x48, 0x5f, 0x7f, 0xf6, 0x10, 0x52, 0xea, 0x73, 0x96, 0xe9, 0xba, 0x73, 0x57, 0x9f, 0x4e,
          0x2f, 0x17, 0x02, 0x4a, 0xc1, 0xb3, 0x16, 0x2b, 0x6d, 0x61, 0x50, 0x93, 0x55, 0x0f, 0xea,
          0x0b, 0x56, 0x54]⟩]
  short := by decide
  marked := by decide
  apart := by decide

/-- The wrapped key that the rotation returns. -/
def rotated_dek : Bytes :=
  encode_utf8 "AwMDAwMDAwMDAwMDqzUEEOlT2uhr1LbLP+q2SF9/9hBS6nOW6bpzV59OLxcCSsGzFittYVCTVQ/qC1ZU"

/-- A message is encrypted, the KEK is rotated, and the service loads what the rotation returned. -/
def rotation_calls : List CryptoCall :=
  [.encrypt (encode_utf8 "old message"), .rotate_kek (List.replicate 32 90),
    .load_wrapped_dek rotated_dek]

/-- The old message is still readable, also by a fresh service with the new KEK. -/
theorem old_message_readable :
    let s : Session := ⟨⟨List.replicate 32 75, by decide, none⟩, 0⟩
    ∃ token, (.encrypt (encode_utf8 "old message"), .ok (some token)) ∈
        s.trace rotation_samples.env rotation_calls ∧
      ((s.after rotation_samples.env rotation_calls).decrypt rotation_samples.env token).1 =
        .ok (encode_utf8 "old message") ∧
      ∃ h' : (List.replicate 32 (90 : UInt8)).length = KEY_SIZE,
        let loaded := Session.load_wrapped_dek rotation_samples.env
          ⟨⟨List.replicate 32 90, h', none⟩, 7⟩ rotated_dek
        loaded.1 = .ok () ∧ (loaded.2.decrypt rotation_samples.env token).1 =
          .ok (encode_utf8 "old message") := by
  intro s
  have hrotated : (.rotate_kek (List.replicate 32 90), .ok (some rotated_dek)) ∈
        s.trace rotation_samples.env (rotation_calls.take 2) ∧
      (.rotate_kek (List.replicate 32 90), .ok (some rotated_dek)) ∈
        s.trace rotation_samples.env rotation_calls := by
    decide +kernel
  have hown : OwnLoads rotation_samples.env s rotation_calls := by
    intro pre wrapped post hcalls _
    -- the only load is the third call
    match pre with
    | [] => cases hcalls
    | [_] => cases hcalls
    | [_, _] =>
      cases hcalls
      exact ⟨_, rotated_dek, hrotated.1, trivial, rfl⟩
    | _ :: _ :: _ :: _ => simp [rotation_calls] at hcalls
  obtain ⟨hreadable, -, -⟩ :=
    history_readable rotation_samples.env (List.replicate 32 75) (by decide) 0 rotation_calls hown
  have htoken : ∃ token, (.encrypt (encode_utf8 "old message"), .ok (some token)) ∈
      s.trace rotation_samples.env rotation_calls :=
    ⟨_, List.mem_cons_self⟩
  obtain ⟨token, htoken⟩ := htoken
  obtain ⟨hdecrypt, hfresh⟩ := hreadable _ token htoken
  obtain ⟨h', hload⟩ := hfresh _ rotated_dek hrotated.2
  exact ⟨token, htoken, hdecrypt, h', hload 7⟩

end CaseAutomation.Security
