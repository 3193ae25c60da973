import CaseAutomation.Audit.Service

/-! # Verification of a Window

    A log written by `record` calls, one after another, and verified between two ids. The
    verifier expects the first row of the window to refer to the genesis hash, whichever row that
    is. So a window verifies exactly when it is empty or contains the first row of the
    log; and then an altered row in it is found.
-/

namespace CaseAutomation.Audit

open Framework

/-! ## Logs written one record at a time -/

/-- A `record` call; ids that rolled-back transactions have used up before it are skipped. -/
structure RecordCall where
  args : RecordArgs
  skipped : Nat

/-- The id that the sequence of the table yields. -/
def next_id (rows : List AuditRow) (skipped : Nat) : Int :=
  match rows.getLast? with
  | none => 1 + skipped
  | some row => row.id + 1 + skipped

/-- `AuditService.record`: append a row that refers to the latest one. -/
def record (call : RecordCall) (rows : List AuditRow) : List AuditRow :=
  rows ++ [call.args.row (next_id rows call.skipped) (head_hash rows.getLast?)]

/-- A log after these calls. -/
def record_all (calls : List RecordCall) : List AuditRow := calls.foldl (fun rows c => record c rows) []

/-- Ids in increasing order. -/
def Ascending (rows : List AuditRow) : Prop := rows.Pairwise fun row row' => row.id < row'.id

/-- What `record` keeps: the rows are in id order and form a chain. -/
structure Written (rows : List AuditRow) : Prop where
  ascending : Ascending rows
  linked : audit_chain.Linked genesis_hash rows

theorem next_id_gt {rows : List AuditRow} (h : Ascending rows) (skipped : Nat) :
    ∀ row ∈ rows, row.id < next_id rows skipped := by
  intro row hrow
  cases rows using List.reverseRecOn with
  | nil => cases hrow
  | append_singleton rows last _ =>
    have hnext : next_id (rows ++ [last]) skipped = last.id + 1 + skipped := by
      simp [next_id]
    rw [hnext]
    obtain hrow | hrow := List.mem_append.mp hrow
    · have hlast := (List.pairwise_append.mp h).2.2 row hrow last (List.mem_singleton.mpr rfl)
      omega
    · rw [List.mem_singleton.mp hrow]
      omega

theorem Written.record {rows : List AuditRow} (h : Written rows) (call : RecordCall) :
    Written (record call rows) := by
  refine ⟨List.pairwise_append.mpr ⟨h.ascending, List.pairwise_singleton _ _, ?_⟩,
    linked_record call.args _ h.linked⟩
  intro row hrow row' hrow'
  rw [List.mem_singleton.mp hrow']
  exact next_id_gt h.ascending call.skipped row hrow

theorem written_record_all (calls : List RecordCall) : Written (record_all calls) := by
  have hfold : ∀ rows, Written rows → Written (calls.foldl (fun rows c => record c rows) rows) := by
    induction calls with
    | nil => exact fun _ h => h
    | cons call calls ih => exact fun rows h => ih _ (h.record call)
  exact hfold [] ⟨List.Pairwise.nil, trivial⟩

/-! ## Windows -/

section windows
variable {start_id end_id : Option Int} {rows pre post : List AuditRow} {first row row' : AuditRow}

/-- Between two rows of a window there are only rows of the window. -/
theorem in_range_between {a b c : AuditRow} (ha : in_range start_id end_id a = true)
    (hc : in_range start_id end_id c = true) (hab : a.id ≤ b.id) (hbc : b.id ≤ c.id) :
    in_range start_id end_id b = true := by
  unfold in_range at *
  rw [Bool.and_eq_true] at *
  constructor
  · cases start_id with
    | none => rfl
    | some n =>
      have hn : n ≤ a.id := of_decide_eq_true ha.1
      exact decide_eq_true (by omega)
  · cases end_id with
    | none => rfl
    | some n =>
      have hn : c.id ≤ n := of_decide_eq_true hc.2
      exact decide_eq_true (by omega)

/-- The rows before a row of the window belong to it, if the first row of the log does. -/
theorem before_in_range (hasc : Ascending (pre ++ row :: post))
    (hfirst : (pre ++ row :: post).head? = some first)
    (hin : in_range start_id end_id first = true) (hrow : in_range start_id end_id row = true) :
    get_range start_id end_id pre = pre := by
  refine List.filter_eq_self.mpr fun r hr => ?_
  have hle : first.id ≤ r.id := by
    cases pre with
    | nil => cases hr
    | cons f pre =>
      obtain rfl := Option.some.inj hfirst
      obtain rfl | hr := List.mem_cons.mp hr
      · exact Int.le_refl _
      · have hlt := (List.pairwise_cons.mp hasc).1 r (by simp [hr])
        omega
  have hlt := (List.pairwise_append.mp hasc).2.2 r hr row List.mem_cons_self
  exact in_range_between hin hrow hle (by omega)

theorem get_range_append (rows rows' : List AuditRow) : get_range start_id end_id (rows ++ rows') =
    get_range start_id end_id rows ++ get_range start_id end_id rows' :=
  List.filter_append _ _

theorem get_range_cons (hrow : in_range start_id end_id row = true) (rows : List AuditRow) :
    get_range start_id end_id (row :: rows) = row :: get_range start_id end_id rows :=
  List.filter_cons_of_pos hrow

/-- A window that contains the first row is the beginning of the log. -/
theorem get_range_prefix (hasc : Ascending rows) (hfirst : rows.head? = some first)
    (hin : in_range start_id end_id first = true) :
    ∃ post, rows = get_range start_id end_id rows ++ post := by
  by_cases hall : ∀ row ∈ rows, in_range start_id end_id row = true
  · exact ⟨[], by rw [List.append_nil]; exact (List.filter_eq_self.mpr hall).symm⟩
  · -- the last row of the window splits the log
    have hnonempty : get_range start_id end_id rows ≠ [] := by
      intro hnil
      have hmem : first ∈ get_range start_id end_id rows :=
        List.mem_filter.mpr ⟨List.mem_of_mem_head? hfirst, hin⟩
      rw [hnil] at hmem
      cases hmem
    have hlast := List.getLast_mem hnonempty
    generalize hr : (get_range start_id end_id rows).getLast hnonempty = row at hlast
    obtain ⟨hmem, hrow⟩ := List.mem_filter.mp hlast
    obtain ⟨pre, post, rfl⟩ := List.append_of_mem hmem
    have hpre := before_in_range hasc hfirst hin hrow
    have hpost : get_range start_id end_id post = [] := by
      rw [get_range, List.filter_eq_nil_iff]
      intro r hr' hin'
      have hafter : r ∈ get_range start_id end_id post := List.mem_filter.mpr ⟨hr', hin'⟩
      have hwindow : get_range start_id end_id (pre ++ row :: post) =
          pre ++ row :: get_range start_id end_id post := by
        rw [get_range_append, get_range_cons hrow, hpre]
      simp only [hwindow] at hr
      have hne : get_range start_id end_id post ≠ [] := List.ne_nil_of_mem hafter
      rw [List.getLast_append_of_ne_nil _ (by simp), List.getLast_cons hne] at hr
      have hlt := (List.pairwise_cons.mp (List.pairwise_append.mp hasc).2.1).1
        ((get_range start_id end_id post).getLast hne)
        (List.mem_of_mem_filter (List.getLast_mem hne))
      rw [hr] at hlt
      omega
    refine ⟨post, ?_⟩
    rw [get_range_append, get_range_cons hrow, hpre, hpost, List.append_assoc]
    rfl

/-! ## Altered rows -/

/-- The row with some of its hashed fields changed, and its stored hash left as it was. -/
structure Altered (row row' : AuditRow) : Prop where
  id : row'.id = row.id
  record_hash : row'.record_hash = row.record_hash
  differs : ¬Agrees row row'

/-- The window is accepted, and one altered row in it is found. -/
structure WindowTrusted (start_id end_id : Option Int) (rows : List AuditRow) : Prop where
  accepts : verify start_id end_id rows = ⟨true, none⟩
  finds : ∀ pre row post row', rows = pre ++ row :: post → in_range start_id end_id row = true →
    Altered row row' → CollisionFree [row.material, row'.material] →
    verify start_id end_id (pre ++ row' :: post) = ⟨false, some row.id⟩

/-- Verification stops at an altered row. -/
theorem verify_from_altered (hl : audit_chain.Linked genesis_hash (pre ++ row :: post))
    (halt : Altered row row') (hinj : CollisionFree [row.material, row'.material])
    (rest : List AuditRow) : verify_from genesis_hash (pre ++ row' :: rest) = ⟨false, some row.id⟩ := by
  obtain ⟨hpre, hprev, hhash, -⟩ := Chaining.linked_append.mp hl
  have hprev₁ : row.prev_hash = audit_chain.tip genesis_hash pre := hprev
  have hhash₁ : row.record_hash = sha256_hex row.material := hhash
  rw [verify_from_append hpre, verify_from, halt.id]
  by_cases hsame : row'.prev_hash = audit_chain.tip genesis_hash pre
  · -- the reference is intact, so the hash is not the one of the altered row
    have hne : row'.record_hash ≠ row'.expected_hash := by
      intro heq
      have hdigest : sha256_hex row.material = sha256_hex row'.material := by
        rw [← hhash₁, ← halt.record_hash, heq, AuditRow.expected_hash]
      have hmaterial := hinj _ (by simp) _ (by simp) hdigest
      exact halt.differs (material_injective (by rw [hsame, hprev₁]) hmaterial)
    rw [if_neg (not_not.mpr hsame), if_pos hne]
  · rw [if_pos hsame]

theorem in_range_altered (halt : Altered row row') :
    in_range start_id end_id row' = in_range start_id end_id row := by
  unfold in_range
  rw [halt.id]

/-- A window that contains the first row is trusted. -/
theorem trusted_of_first (h : Written rows) (hfirst : rows.head? = some first)
    (hin : in_range start_id end_id first = true) : WindowTrusted start_id end_id rows := by
  constructor
  · obtain ⟨post, hsplit⟩ := get_range_prefix h.ascending hfirst hin
    have hl := h.linked
    rw [hsplit] at hl
    exact verify_from_ok_iff.mpr (Chaining.linked_append.mp hl).1
  · rintro pre row post row' rfl hrow halt hinj
    have hpre := before_in_range h.ascending hfirst hin hrow
    have hwindow : get_range start_id end_id (pre ++ row' :: post) =
        pre ++ row' :: get_range start_id end_id post := by
      rw [get_range_append, get_range_cons (by rw [in_range_altered halt, hrow]), hpre]
    rw [verify, hwindow]
    exact verify_from_altered h.linked halt hinj _

/-- A window that begins in the middle of the log is refused. -/
theorem refused_in_middle (h : Written rows) (hzero : ∀ row ∈ rows, row.record_hash ≠ genesis_hash)
    (hnonempty : get_range start_id end_id rows ≠ [])
    (hout : ∀ first, rows.head? = some first → in_range start_id end_id first = false) :
    (verify start_id end_id rows).ok = false := by
  -- the first row of the window has rows before it
  obtain ⟨row, post, pre, hrows, hpre, hrow⟩ : ∃ row post pre, rows = pre ++ row :: post ∧
      get_range start_id end_id pre = [] ∧ in_range start_id end_id row = true := by
    clear h hzero hout
    induction rows with
    | nil => exact absurd rfl hnonempty
    | cons r rows ih =>
      by_cases hr : in_range start_id end_id r = true
      · exact ⟨r, rows, [], rfl, rfl, hr⟩
      · have hskip : ∀ l, get_range start_id end_id (r :: l) = get_range start_id end_id l :=
          fun l => List.filter_cons_of_neg hr
        rw [hskip] at hnonempty
        obtain ⟨row, post, pre, rfl, hpre, hrow⟩ := ih hnonempty
        exact ⟨row, post, r :: pre, rfl, by rw [hskip, hpre], hrow⟩
  subst hrows
  have hne : pre ≠ [] := by
    rintro rfl
    rw [hout row rfl] at hrow
    cases hrow
  obtain ⟨hl, hprev, -⟩ := Chaining.linked_append.mp h.linked
  have hprev₁ : row.prev_hash ≠ genesis_hash := by
    have htip : row.prev_hash = audit_chain.tip genesis_hash pre := hprev
    rw [htip, tip_eq_last, List.getLast?_eq_some_getLast hne]
    exact hzero _ (List.mem_append_left _ (List.getLast_mem hne))
  rw [verify, get_range_append, hpre, List.nil_append, get_range_cons hrow, verify_from,
    if_pos hprev₁]

end windows

/-- **Verification of a window.** In a log written by any sequence of `record` calls, a window is
    accepted, with any altered row in it found, if and only if it is empty or contains the
    first row of the log; SHA-256 is assumed not to yield the genesis hash. -/
theorem window_trusted_iff (calls : List RecordCall) (start_id end_id : Option Int)
    (hzero : ∀ m ∈ materials (record_all calls), sha256_hex m ≠ genesis_hash) :
    WindowTrusted start_id end_id (record_all calls) ↔
      get_range start_id end_id (record_all calls) = [] ∨
        ∃ first, (record_all calls).head? = some first ∧ in_range start_id end_id first = true := by
  have hwritten := written_record_all calls
  constructor
  · intro htrusted
    by_contra hmiddle
    rw [not_or, not_exists] at hmiddle
    obtain ⟨hnonempty, hout⟩ := hmiddle
    have hhash : ∀ row ∈ record_all calls, row.record_hash ≠ genesis_hash := by
      intro row hrow
      have hstored : row.record_hash = sha256_hex row.material := hwritten.linked.stored_eq hrow
      rw [hstored]
      exact hzero _ (List.mem_map_of_mem hrow)
    have hrefused := refused_in_middle hwritten hhash hnonempty fun first hfirst =>
      Bool.eq_false_iff.mpr fun hin => hout first ⟨hfirst, hin⟩
    rw [htrusted.accepts] at hrefused
    cases hrefused
  · rintro (hempty | ⟨first, hfirst, hin⟩)
    · refine ⟨by rw [verify, hempty]; rfl, ?_⟩
      intro pre row post row' hrows hrow
      have hmem : row ∈ get_range start_id end_id (record_all calls) :=
        List.mem_filter.mpr ⟨by rw [hrows]; simp, hrow⟩
      rw [hempty] at hmem
      cases hmem
    · exact trusted_of_first hwritten hfirst hin

/-! ## The second row alone -/

/-- Two filings. -/
def two_filings : List RecordCall :=
  [⟨filing [("court", .str "SDNY"), ("pages", .int 3)], 0⟩, ⟨filing [], 0⟩]

theorem two_filings_recorded : record_all two_filings = [filing_row, filing_next] := rfl

/-- **A window in the middle**: the log of two records is accepted as a whole, and the window that
    begins with the second row is refused. -/
theorem second_row_refused :
    (verify none none (record_all two_filings)).ok = true ∧
    (verify (some 2) none (record_all two_filings)).ok = false := by
  have hwritten := written_record_all two_filings
  constructor
  · rw [verify, get_range_all, verify_from_ok_iff.mpr hwritten.linked]
  · have hwindow : get_range (some 2) none (record_all two_filings) = [filing_next] := by
      rw [two_filings_recorded]
      rfl
    have hprev : filing_next.prev_hash ≠ genesis_hash := filing_record_hash
    rw [verify, hwindow, verify_from, if_pos hprev]

/-- The whole log of two records is trusted. -/
theorem two_filings_trusted : WindowTrusted none none (record_all two_filings) := by
  refine (window_trusted_iff _ none none ?_).mpr (Or.inr ⟨filing_row, ?_, rfl⟩)
  · refine (filing_texts fun m hm => ?_).2
    simpa only [two_filings_recorded, materials, List.map_cons, List.map_nil, List.mem_cons,
      List.not_mem_nil, or_false] using hm
  · rw [two_filings_recorded]
    rfl

end CaseAutomation.Audit
