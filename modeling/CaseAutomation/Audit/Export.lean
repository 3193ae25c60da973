import CaseAutomation.Audit.Windows
import Mathlib.Data.List.Lattice

/-! # Exporting the Audit Log

    `AuditService.export`: the rows of a window as JSONL, one compact JSON object per line, with the
    stored hashes in it, so that the chain can be verified again after import.

    The repository has no importer. `import_jsonl` is what that sentence asks of one: each line
    through `json.loads`, its timestamp through `datetime.fromisoformat`. The results say that it gets the
    rows back (`export_reads_back`), so that it verifies what the service verifies, and that
    windows can be exported one by one.
-/

namespace CaseAutomation.Audit

open JsonCodec

/-! ## Export -/

/-- `entry`. -/
def AuditRow.entry (row : AuditRow) : JsonObj :=
  [("id", .int row.id), ("actor", .str row.actor), ("action", .str row.action),
    ("inputs", .obj row.inputs), ("outputs", .obj row.outputs),
    ("approval", optional_obj row.approval), ("timestamp", .str row.timestamp.isoformat),
    ("run_id", optional_str row.run_id), ("prev_hash", .str row.prev_hash),
    ("record_hash", .str row.record_hash)]

/-- `json.dumps(entry, separators=(",", ":"))`. -/
def AuditRow.line (row : AuditRow) : String := String.ofList (text [] (.obj row.entry))

/-- `AuditService.export`. -/
def export_jsonl (start_id end_id : Option Int) (rows : List AuditRow) : String :=
  "\n".intercalate ((get_range start_id end_id rows).map AuditRow.line)

/-! ## Import -/

/-- Read `k` decimal digits. -/
def read_digits (k : Nat) (cs : List Char) : Option (Nat × List Char) :=
  if k ≤ cs.length ∧ (cs.take k).all Char.isDigit = true then
    some (Nat.ofDigitChars 10 (cs.take k) 0, cs.drop k)
  else none

/-- Read `k` decimal digits and the separator after them. -/
def read_field (k : Nat) (separator : Char) (cs : List Char) : Option (Nat × List Char) :=
  (read_digits k cs).bind fun field => (eat [separator] field.2).map fun rest => (field.1, rest)

/-- Read the microseconds, if there are any. -/
def read_microsecond : List Char → Option (Nat × List Char)
  | '.' :: cs => read_digits 6 cs
  | cs => some (0, cs)

/-- `datetime(year, month, day, hour, minute, second, microsecond, tzinfo=UTC)`. -/
def make_timestamp (year month day hour minute second microsecond : Nat) : Option Timestamp :=
  if h : (1 ≤ year ∧ year ≤ 9999) ∧ (1 ≤ month ∧ month ≤ 12) ∧
      (1 ≤ day ∧ day ≤ days_in_month year month) ∧ hour < 24 ∧ minute < 60 ∧ second < 60 ∧
      microsecond < 1000000 then
    some ⟨year, month, day, hour, minute, second, microsecond, h.1, h.2.1, h.2.2.1, h.2.2.2.1,
      h.2.2.2.2.1, h.2.2.2.2.2.1, h.2.2.2.2.2.2⟩
  else none

/-- `datetime.fromisoformat`, of the texts that `isoformat` gives for UTC. -/
def fromisoformat (s : String) : Option Timestamp := do
  let (year, cs) ← read_field 4 '-' s.toList
  let (month, cs) ← read_field 2 '-' cs
  let (day, cs) ← read_field 2 'T' cs
  let (hour, cs) ← read_field 2 ':' cs
  let (minute, cs) ← read_field 2 ':' cs
  let (second, cs) ← read_digits 2 cs
  let (microsecond, cs) ← read_microsecond cs
  if cs = ['+', '0', '0', ':', '0', '0'] then
    make_timestamp year month day hour minute second microsecond
  else none

def as_int : Json → Option Int
  | .int n => some n
  | _ => none

def as_str : Json → Option String
  | .str s => some s
  | _ => none

def as_obj : Json → Option JsonObj
  | .obj o => some o
  | _ => none

/-- A value that may be `null`. -/
def as_optional {α : Type} (read : Json → Option α) : Json → Option (Option α)
  | .null => some none
  | j => (read j).map some

/-- The row of an entry. -/
def AuditRow.of_entry (entry : JsonObj) : Option AuditRow := do
  let id ← (entry.lookup "id").bind as_int
  let actor ← (entry.lookup "actor").bind as_str
  let action ← (entry.lookup "action").bind as_str
  let inputs ← (entry.lookup "inputs").bind as_obj
  let outputs ← (entry.lookup "outputs").bind as_obj
  let approval ← (entry.lookup "approval").bind (as_optional as_obj)
  let timestamp ← ((entry.lookup "timestamp").bind as_str).bind fromisoformat
  let run_id ← (entry.lookup "run_id").bind (as_optional as_str)
  let prev_hash ← (entry.lookup "prev_hash").bind as_str
  let record_hash ← (entry.lookup "record_hash").bind as_str
  return ⟨id, actor, action, inputs, outputs, approval, timestamp, run_id, prev_hash, record_hash⟩

/-- `json.loads` of a line. -/
def load_line (line : List Char) : Option JsonObj :=
  match read [] line.length line with
  | some (.obj entry, []) => some entry
  | _ => none

/-- The rows of an exported text; an empty text has none. -/
def import_jsonl (exported : String) : Option (List AuditRow) :=
  if exported = "" then some []
  else (exported.toList.splitOn '\n').mapM fun line => (load_line line).bind AuditRow.of_entry

/-! ## Timestamps read back -/

theorem digits_all_isDigit (k n : Nat) : (digits k n).all Char.isDigit = true := by
  have hdigit : ∀ d < 10, (Nat.digitChar d).isDigit = true := by decide
  induction k generalizing n with
  | zero => rfl
  | succ k ih =>
    have hlast := hdigit (n % 10) (by omega)
    simp [digits, ih, hlast]

theorem ofDigitChars_digits {k n : Nat} (h : n < 10 ^ k) : Nat.ofDigitChars 10 (digits k n) 0 = n := by
  induction k generalizing n with
  | zero =>
    rw [Nat.pow_zero] at h
    have hzero : n = 0 := by omega
    rw [hzero, digits, Nat.ofDigitChars_nil]
  | succ k ih =>
    rw [Nat.pow_succ] at h
    rw [digits, Nat.ofDigitChars_append, ih (by omega),
      Nat.ofDigitChars_cons_digitChar_of_lt_ten (by omega), Nat.ofDigitChars_nil]
    omega

theorem read_digits_digits {k n : Nat} (h : n < 10 ^ k) (rest : List Char) :
    read_digits k (digits k n ++ rest) = some (n, rest) := by
  have hlen := digits_length k n
  have htake : (digits k n ++ rest).take k = digits k n := List.take_left' hlen
  have hdrop : (digits k n ++ rest).drop k = rest := List.drop_left' hlen
  unfold read_digits
  rw [htake, hdrop, digits_all_isDigit, ofDigitChars_digits h, if_pos]
  rw [List.length_append, hlen]
  exact ⟨Nat.le_add_right k _, rfl⟩

theorem read_field_text {k n : Nat} (h : n < 10 ^ k) (separator : Char) (rest : List Char) :
    read_field k separator (digits k n ++ separator :: rest) = some (n, rest) := by
  have heat : eat [separator] (separator :: rest) = some rest := eat_text [separator] rest
  unfold read_field
  rw [read_digits_digits h, Option.bind_some, heat, Option.map_some]

theorem make_timestamp_eq (t : Timestamp) :
    make_timestamp t.year t.month t.day t.hour t.minute t.second t.microsecond = some t :=
  dif_pos ⟨t.year_ok, t.month_ok, t.day_ok, t.hour_ok, t.minute_ok, t.second_ok, t.microsecond_ok⟩

/-- The microseconds, or the sign of the offset where there are none. -/
theorem read_microsecond_text {n : Nat} (h : n < 1000000) (rest : List Char) :
    read_microsecond ((if n = 0 then [] else '.' :: digits 6 n) ++ '+' :: rest) =
      some (n, '+' :: rest) := by
  by_cases hzero : n = 0
  · rw [if_pos hzero, hzero]
    rfl
  · rw [if_neg hzero, List.cons_append, read_microsecond]
    exact read_digits_digits (by omega) _

/-- **A timestamp is read back from its text.** -/
theorem fromisoformat_isoformat (t : Timestamp) : fromisoformat t.isoformat = some t := by
  have hyear := t.year_ok
  have hmonth := t.month_ok
  have hday : t.day < 10 ^ 2 := by
    have hmax := t.day_ok.2
    unfold days_in_month at hmax
    split_ifs at hmax <;> omega
  have hhour := t.hour_ok
  have hminute := t.minute_ok
  have hsecond := t.second_ok
  unfold fromisoformat Timestamp.isoformat
  rw [String.toList_ofList, read_field_text (show t.year < 10 ^ 4 by omega)]
  show Option.bind (read_field 2 '-' _) _ = _
  rw [read_field_text (show t.month < 10 ^ 2 by omega), Option.bind_some]
  show Option.bind (read_field 2 'T' _) _ = _
  rw [read_field_text hday, Option.bind_some]
  show Option.bind (read_field 2 ':' _) _ = _
  rw [read_field_text (show t.hour < 10 ^ 2 by omega), Option.bind_some]
  show Option.bind (read_field 2 ':' _) _ = _
  rw [read_field_text (show t.minute < 10 ^ 2 by omega), Option.bind_some]
  show Option.bind (read_digits 2 _) _ = _
  rw [read_digits_digits (show t.second < 10 ^ 2 by omega), Option.bind_some]
  show Option.bind (read_microsecond _) _ = _
  rw [read_microsecond_text t.microsecond_ok, Option.bind_some]
  show (if _ then _ else _) = _
  rw [if_pos rfl, make_timestamp_eq]

/-! ## Rows read back -/

theorem of_entry_entry (row : AuditRow) : AuditRow.of_entry row.entry = some row := by
  have happroval : as_optional as_obj (optional_obj row.approval) = some row.approval := by
    cases row.approval with
    | none => rfl
    | some o => rfl
  have hrun : as_optional as_str (optional_str row.run_id) = some row.run_id := by
    cases row.run_id with
    | none => rfl
    | some s => rfl
  have hstamp : (row.entry.lookup "timestamp").bind as_str = some row.timestamp.isoformat := rfl
  have happroval' : (row.entry.lookup "approval").bind (as_optional as_obj) = some row.approval :=
    happroval
  have hrun' : (row.entry.lookup "run_id").bind (as_optional as_str) = some row.run_id := hrun
  have hid : (row.entry.lookup "id").bind as_int = some row.id := rfl
  have hactor : (row.entry.lookup "actor").bind as_str = some row.actor := rfl
  have haction : (row.entry.lookup "action").bind as_str = some row.action := rfl
  have hinputs : (row.entry.lookup "inputs").bind as_obj = some row.inputs := rfl
  have houtputs : (row.entry.lookup "outputs").bind as_obj = some row.outputs := rfl
  have hprev : (row.entry.lookup "prev_hash").bind as_str = some row.prev_hash := rfl
  have hhash : (row.entry.lookup "record_hash").bind as_str = some row.record_hash := rfl
  unfold AuditRow.of_entry
  rw [hid, hactor, haction, hinputs, houtputs, happroval', hstamp, Option.bind_some,
    fromisoformat_isoformat, hrun', hprev, hhash]
  rfl

theorem load_line_line (row : AuditRow) : load_line row.line.toList = some row.entry := by
  have hread := read_text [] (.obj row.entry) (text [] (.obj row.entry)).length [] (Nat.le_refl _)
    noNumber_nil
  rw [List.append_nil] at hread
  unfold load_line AuditRow.line
  rw [String.toList_ofList, hread]

/-! ## Lines -/

theorem unit_no_newline (n : Nat) : '\n' ∉ unit_text n := by
  have hhex : ∀ d < 16, Nat.digitChar d ≠ '\n' := by decide
  have hdigit : ∀ m, '\n' ≠ Nat.digitChar (m % 16) :=
    fun m => (hhex (m % 16) (Nat.mod_lt m (by decide))).symm
  unfold unit_text hex4
  simp only [List.mem_cons, List.not_mem_nil, or_false, not_or]
  exact ⟨by decide, by decide, hdigit _, hdigit _, hdigit _, hdigit _⟩

theorem escape_no_newline (c : Char) : '\n' ∉ escape c := by
  unfold escape
  by_cases hnewline : c = '\n'
  · subst hnewline
    decide
  · repeat' split
    all_goals first
      | decide
      | exact unit_no_newline _
      | skip
    · -- a printable character is not a newline
      rw [List.mem_singleton]
      exact fun h => hnewline h.symm
    · rw [List.mem_append, not_or]
      exact ⟨unit_no_newline _, unit_no_newline _⟩

theorem string_no_newline (s : String) : '\n' ∉ string_text s := by
  unfold string_text
  simp only [List.mem_append, List.mem_flatMap, List.mem_singleton, not_or, not_exists, not_and]
  exact ⟨fun c _ => escape_no_newline c, by decide⟩

theorem number_no_newline {cs : List Char} {j : Json} (h : NumberText cs j) : '\n' ∉ cs := by
  intro hmem
  exact absurd (h.chars '\n' hmem) (by decide)

mutual
/-- A compact JSON text is one line. -/
theorem text_no_newline (j : Json) : '\n' ∉ text [] j := by
  cases j with
  | null => decide
  | bool b => cases b <;> decide
  | int n =>
    rw [text]
    exact number_no_newline (int_number n)
  | float x =>
    rw [text]
    exact number_no_newline (float_number x)
  | str s =>
    rw [text]
    simp [string_no_newline s]
  | arr xs =>
    cases xs with
    | nil => rw [text]; decide
    | cons x xs =>
      rw [text]
      simp [text_no_newline x, items_no_newline xs]
  | obj fs =>
    cases fs with
    | nil => rw [text]; decide
    | cons f fs =>
      obtain ⟨k, v⟩ := f
      rw [text]
      simp [string_no_newline k, text_no_newline v, fields_no_newline fs]
theorem items_no_newline (xs : List Json) : '\n' ∉ items_text [] xs := by
  cases xs with
  | nil => rw [items_text]; decide
  | cons x xs =>
    rw [items_text]
    simp [text_no_newline x, items_no_newline xs]
theorem fields_no_newline (fs : List (String × Json)) : '\n' ∉ fields_text [] fs := by
  cases fs with
  | nil => rw [fields_text]; decide
  | cons f fs =>
    obtain ⟨k, v⟩ := f
    rw [fields_text]
    simp [string_no_newline k, text_no_newline v, fields_no_newline fs]
end

theorem line_no_newline (row : AuditRow) : '\n' ∉ row.line.toList := by
  unfold AuditRow.line
  rw [String.toList_ofList]
  exact text_no_newline _

theorem line_ne_empty (row : AuditRow) : row.line.toList ≠ [] := by
  obtain ⟨c, cs, htext, -⟩ := text_head [] (.obj row.entry)
  unfold AuditRow.line
  rw [String.toList_ofList, htext]
  exact List.cons_ne_nil c cs

/-! ## A window read back -/

theorem mapM_line (rows : List AuditRow) :
    (rows.map fun row => row.line.toList).mapM (fun line =>
      (load_line line).bind AuditRow.of_entry) = some rows := by
  induction rows with
  | nil => rfl
  | cons row rows ih =>
    rw [List.map_cons, List.mapM_cons, load_line_line, Option.bind_some, of_entry_entry, ih]
    rfl

/-- The joined lines give the rows back. -/
theorem import_lines (rows : List AuditRow) :
    import_jsonl ("\n".intercalate (rows.map AuditRow.line)) = some rows := by
  cases rows with
  | nil => rfl
  | cons row rows =>
    have hlines : ("\n".intercalate ((row :: rows).map AuditRow.line)).toList =
        ['\n'].intercalate ((row :: rows).map fun r => r.line.toList) := by
      rw [String.toList_intercalate, List.map_map]
      rfl
    have hsplit : (['\n'].intercalate ((row :: rows).map fun r => r.line.toList)).splitOn '\n' =
        (row :: rows).map fun r => r.line.toList := by
      refine List.splitOn_intercalate '\n' ?_ (List.cons_ne_nil _ _)
      intro line hline
      obtain ⟨r, _, rfl⟩ := List.mem_map.mp hline
      exact line_no_newline r
    have hne : "\n".intercalate ((row :: rows).map AuditRow.line) ≠ "" := by
      intro hempty
      -- the pieces of an empty text are one empty line, and no line is empty
      rw [hempty] at hlines
      rw [← hlines, List.map_cons] at hsplit
      exact line_ne_empty row (List.cons.inj hsplit).1.symm
    unfold import_jsonl
    rw [if_neg hne, hlines, hsplit, mapM_line]

/-- **An export is read back**, whatever the rows are and whichever window was taken, and what is read
    back verifies exactly as the window does in the service. -/
theorem export_reads_back (start_id end_id : Option Int) (rows : List AuditRow) :
    import_jsonl (export_jsonl start_id end_id rows) = some (get_range start_id end_id rows) ∧
      (import_jsonl (export_jsonl start_id end_id rows)).map (verify none none) =
        some (verify start_id end_id rows) := by
  have hback := import_lines (get_range start_id end_id rows)
  unfold export_jsonl
  rw [hback, Option.map_some, verify, verify, get_range_all]
  exact ⟨rfl, rfl⟩

/-! ## An archive of windows -/

/-- The windows that these ids close, and the one after them. -/
def windows : Option Int → List Int → List (Option Int × Option Int)
  | start_id, [] => [(start_id, none)]
  | start_id, id :: ids => (start_id, some id) :: windows (some (id + 1)) ids

/-- One export for each window. -/
def archive (ids : List Int) (rows : List AuditRow) : List String :=
  (windows none ids).map fun window => export_jsonl window.1 window.2 rows

/-- The rows of an archive. -/
def restore (texts : List String) : Option (List AuditRow) :=
  (texts.mapM import_jsonl).map List.flatten

/-- An ascending log falls into the rows up to an id and the rows from the next one on. -/
theorem get_range_split {rows : List AuditRow} (hasc : Ascending rows) {start_id : Option Int}
    {id : Int} (hstart : ∀ n, start_id = some n → n ≤ id + 1) :
    get_range start_id none rows =
      get_range start_id (some id) rows ++ get_range (some (id + 1)) none rows := by
  unfold get_range
  induction rows with
  | nil => rfl
  | cons row rows ih =>
    obtain ⟨hfirst, hrest⟩ := List.pairwise_cons.mp hasc
    by_cases hlow : row.id ≤ id
    · have hupper : in_range (some (id + 1)) none row = false := by
        simp [in_range]
        omega
      have hsame : in_range start_id (some id) row = in_range start_id none row := by
        simp [in_range, hlow]
      rw [List.filter_cons, List.filter_cons, List.filter_cons, hupper, hsame, ih hrest]
      by_cases hin : in_range start_id none row = true
      · simp [hin]
      · simp [hin]
    · -- from here on every row belongs to the second window
      have hafter : ∀ r ∈ row :: rows, in_range start_id (some id) r = false ∧
          in_range start_id none r = true ∧ in_range (some (id + 1)) none r = true := by
        intro r hr
        have hid : id + 1 ≤ r.id := by
          rcases List.mem_cons.mp hr with rfl | hr
          · omega
          · have := hfirst r hr
            omega
        refine ⟨?_, ?_, ?_⟩
        · simp [in_range]
          intro _
          omega
        · cases start_id with
          | none => rfl
          | some n =>
            have := hstart n rfl
            simp [in_range]
            omega
        · simp [in_range]
          omega
      rw [List.filter_eq_self.mpr fun r hr => (hafter r hr).2.1,
        List.filter_eq_self.mpr fun r hr => (hafter r hr).2.2,
        List.filter_eq_nil_iff.mpr fun r hr => by rw [(hafter r hr).1]; exact Bool.false_ne_true]
      rfl

/-- The windows from a start on give the rows from there on. -/
theorem restore_windows {rows : List AuditRow} (hasc : Ascending rows) {ids : List Int}
    (hids : ids.Pairwise (· ≤ ·)) (start_id : Option Int)
    (hstart : ∀ n, start_id = some n → ∀ id ∈ ids, n ≤ id + 1) :
    restore ((windows start_id ids).map fun window => export_jsonl window.1 window.2 rows) =
      some (get_range start_id none rows) := by
  -- over the ids, for every start
  induction ids generalizing start_id with
  | nil =>
    have hback : import_jsonl (export_jsonl start_id none rows) = some (get_range start_id none rows) :=
      import_lines _
    simp [windows, restore, hback]
  | cons id ids ih =>
    obtain ⟨hfirst, hrest⟩ := List.pairwise_cons.mp hids
    have hnext := ih hrest (some (id + 1)) (by
      intro n hn other hother
      have := hfirst other hother
      cases hn
      omega)
    have hback : import_jsonl (export_jsonl start_id (some id) rows) =
        some (get_range start_id (some id) rows) := import_lines _
    obtain ⟨parts, hparts, hflat⟩ := Option.map_eq_some_iff.mp hnext
    rw [get_range_split hasc (fun n hn => hstart n hn id List.mem_cons_self)]
    unfold restore
    rw [windows, List.map_cons, List.mapM_cons, hback, hparts]
    show some (_ ++ parts.flatten) = _
    rw [hflat]

/-- **An archive of windows restores the log.** A log that was written one record at a time can be
    exported window by window, cut at any ids; the imported windows together are the log, and
    it verifies. -/
theorem archive_restores (calls : List RecordCall) (ids : List Int) (hids : ids.Pairwise (· ≤ ·)) :
    restore (archive ids (record_all calls)) = some (record_all calls) ∧
      (restore (archive ids (record_all calls))).map (verify none none) = some ⟨true, none⟩ := by
  have hwritten := written_record_all calls
  have hrestored : restore (archive ids (record_all calls)) = some (record_all calls) := by
    have hwindows := restore_windows hwritten.ascending hids none (fun n hn => by cases hn)
    rw [get_range_all] at hwindows
    exact hwindows
  have hverified : verify none none (record_all calls) = ⟨true, none⟩ := by
    rw [verify, get_range_all, verify_from_ok_iff]
    exact hwritten.linked
  refine ⟨hrestored, ?_⟩
  rw [hrestored, Option.map_some, hverified]

/-- Two filings, cut after the first one and once more after the log. -/
theorem filings_archived : restore (archive [1, 7] (record_all two_filings)) =
    some (record_all two_filings) :=
  (archive_restores two_filings [1, 7] (by decide)).1

end CaseAutomation.Audit
