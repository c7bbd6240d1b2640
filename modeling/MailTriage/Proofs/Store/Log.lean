import MailTriage.Proofs.Form.Rule
import MailTriage.Proofs.Json.Document
import MailTriage.Proofs.Number.Range
import MailTriage.Proofs.Store.Session

/-!
# The stored log and a log in memory

A log in memory keeps the entries themselves; the stored log keeps them in columns, with the reports
in one document, and gets a new entry only after the old ones have been looked through. Given the
same entries at the same readings of the clock, both hold the same: the entries that no later
arrival has made forgotten. This is so exactly as long as the columns can take what they are given:
the numbers of the entries, and the cutoff that their times are compared with.
-/

namespace MailTriage

open Store

/-! ## Entries in their columns -/

namespace Value

mutual

/-- Whether the floating numbers of a value are finite, and no object has a key twice. -/
def isProper : Value → Bool
  | float x => x.isFinite
  | list items => allProper items
  | object fields => decide (fields.map Prod.fst).Nodup && membersProper fields
  | null => true
  | bool _ => true
  | int _ => true
  | text _ => true

def allProper : List Value → Bool
  | [] => true
  | item :: rest => item.isProper && allProper rest

def membersProper : List (String × Value) → Bool
  | [] => true
  | (_, value) :: rest => value.isProper && membersProper rest

end

mutual

theorem isPortable_eq : ∀ v : Value, v.isPortable = (Json.isWritable v && v.isProper)
  | null | bool _ | text _ => rfl
  | int _ => by simp [isPortable, Json.isWritable, isProper]
  | float _ => by simp [isPortable, Json.isWritable, isProper]
  | list items => by rw [isPortable, Json.isWritable, isProper, allPortable_eq items]
  | object fields => by
    rw [isPortable, Json.isWritable, isProper, membersPortable_eq fields, Bool.and_left_comm]

theorem allPortable_eq : ∀ items :
    List Value, allPortable items = (Json.allWritable items && allProper items)
  | [] => rfl
  | item :: rest => by
    rw [allPortable, Json.allWritable, allProper, isPortable_eq item, allPortable_eq rest]
    ac_rfl

theorem membersPortable_eq : ∀ fields : Fields,
    membersPortable fields = (Json.membersWritable fields && membersProper fields)
  | [] => rfl
  | (_, value) :: rest => by
    rw [membersPortable, Json.membersWritable, membersProper, isPortable_eq value,
      membersPortable_eq rest]
    ac_rfl

end

end Value

theorem LogEntry.read_reports (entry : LogEntry) :
    LogEntry.read (.object (entry.toValue.fields.set "results" entry.reports)) = pure entry := by
  have hreports : Form.listOf RuleReport.read entry.reports = pure entry.rules :=
    Form.listOf_map (fun report => report.read_withTime Binary64.zero) entry.rules
  have hfield :
      (entry.toValue.fields.set "results" entry.reports).get? "results" = some entry.reports := rfl
  unfold LogEntry.read Form.record Form.required Form.defaulting
  dsimp only
  rw [Form.field_eq_pure hfield hreports]
  rfl

/-- The columns give an entry back, unless a number in its reports is too long to be written. -/
theorem LogEntry.stored_eq {entry : LogEntry} (h : entry.reports.isProper = true) :
    entry.stored = if Json.isWritable entry.reports then .ok entry else .error .tooLong := by
  unfold stored
  by_cases hwritable : Json.isWritable entry.reports = true
  · have hparse : Json.parse (Json.line entry.reports) = .ok entry.reports := by
      apply Json.parse_line
      rw [Value.isPortable_eq, hwritable, h]
      rfl
    simp only [hwritable, hparse, LogEntry.read_reports]
    rfl
  · simp [hwritable]

/-! ## The order of a listing -/

namespace Store

theorem newer_trans (a b c : LogEntry) (hab : newer a b = true) (hbc : newer b c = true) :
    newer a c = true := by
  simp only [newer, decide_eq_true_eq] at hab hbc ⊢
  omega

theorem newer_total (a b : LogEntry) : (newer a b || newer b a) = true := by
  simp only [newer, Bool.or_eq_true, decide_eq_true_eq]
  omega

theorem newestFirst_perm (log : Journal) : (newestFirst log).Perm log :=
  (List.mergeSort_perm log.reverse newer).trans log.reverse_perm

theorem newestFirst_sorted (log : Journal) :
    (newestFirst log).Pairwise fun a b => b.timestamp ≤ a.timestamp := by
  have h : (log.reverse.mergeSort newer).Pairwise fun a b => newer a b = true :=
    List.pairwise_mergeSort newer_trans newer_total log.reverse
  exact h.imp fun hnewer => of_decide_eq_true hnewer

end Store

/-- A session lists the entries of a journal, each once and newest first, and as many of the first
of them as a number in a word asks for. A number beyond a word is refused. -/
structure Session.Lists (journal : Journal) (session : Session) : Prop where
  listed : ∃ entries, (listLog none session).1 = .ok entries ∧ entries.Perm journal ∧
    entries.Pairwise (fun a b => b.timestamp ≤ a.timestamp) ∧
    ∀ n : Int, 1 ≤ n → (listLog (some n) session).1 =
      if fitsWord n then .ok (entries.take n.toNat) else .error .tooLarge

namespace Session

variable {session : Session}

theorem lists_ofDatabase (data : Database) : (ofDatabase data).Lists data.log where
  listed := by
    refine ⟨newestFirst data.log, ?_, newestFirst_perm _, newestFirst_sorted _, ?_⟩
    · simp [listLog, apply, ofDatabase]
    · intro n hn
      have hpos : 0 < n := by omega
      by_cases hfits : fitsWord n = true <;> simp [listLog, apply, ofDatabase, hfits, hpos]

theorem Lists.perm {journal : Journal} (h : session.Lists journal) :
    session.stalled = false ∧ session.current.log.Perm journal := by
  obtain ⟨entries, hlisted, hperm, -⟩ := h.listed
  cases hstalled : session.stalled with
  | true => simp [listLog, apply, hstalled] at hlisted
  | false =>
    simp only [listLog, apply, hstalled, Bool.false_eq_true, if_false, Except.ok.injEq] at hlisted
    exact ⟨rfl, ((newestFirst_perm _).symm.trans (by rw [hlisted])).trans hperm⟩

end Session

/-! ## Arrivals -/

/-- An entry on its way into a log, and the reading of the clock when it arrives. -/
structure Arrival where
  now : Int
  entry : LogEntry

namespace Arrival

def inMemory (retentionDays : Int) (arrivals : List Arrival) : Journal :=
  arrivals.foldl (fun journal arrival => journal.append arrival.now retentionDays arrival.entry) []

def inStore (retentionDays : Int) (arrivals : List Arrival) (session : Session) : Session :=
  arrivals.foldl
    (fun session arrival => (appendLog arrival.now retentionDays arrival.entry session).2) session

/-- The entries that no later arrival has made forgotten. The last one is always among them. -/
def standing (retentionDays : Int) : List Arrival → List LogEntry
  | [] => []
  | arrival :: later =>
    (if later.all fun next =>
      cutoff next.now retentionDays ≤ arrival.entry.timestamp then [arrival.entry] else []) ++
      standing retentionDays later

/-- Whether the columns can take an entry when it arrives, and the cutoff that comes with it. -/
def Fits (retentionDays : Int) (arrival : Arrival) : Prop :=
  fitsWord (cutoff arrival.now retentionDays) = true ∧ arrival.entry.fits = true ∧
    Json.isWritable arrival.entry.reports = true

instance (retentionDays : Int) (arrival : Arrival) : Decidable (arrival.Fits retentionDays) :=
  inferInstanceAs (Decidable (_ ∧ _ ∧ _))

variable {retentionDays : Int}

theorem inMemory_concat (before : List Arrival) (arrival : Arrival) :
    inMemory retentionDays (before ++ [arrival]) =
      (inMemory retentionDays before).append arrival.now retentionDays arrival.entry :=
  List.foldl_concat ..

theorem inStore_concat (before : List Arrival) (arrival : Arrival) (session : Session) :
    inStore retentionDays (before ++ [arrival]) session =
      (appendLog arrival.now retentionDays arrival.entry
        (inStore retentionDays before session)).2 :=
  List.foldl_concat ..

theorem standing_concat (before : List Arrival) (arrival : Arrival) :
    standing retentionDays (before ++ [arrival]) =
      (standing retentionDays before).filter
        (fun entry => cutoff arrival.now retentionDays ≤ entry.timestamp) ++
        [arrival.entry] := by
  induction before with
  | nil => rfl
  | cons first rest ih =>
    rw [List.cons_append, standing, standing, ih, List.filter_append, List.append_assoc,
      List.all_append]
    congr 1
    by_cases hrest :
        (rest.all fun next => cutoff next.now retentionDays ≤ first.entry.timestamp) = true
    · by_cases hlast :
          cutoff arrival.now retentionDays ≤ first.entry.timestamp <;> simp [hrest, hlast]
    · simp [hrest]

/-- A log in memory holds what no later arrival has made forgotten. -/
theorem inMemory_eq_standing (arrivals : List Arrival) :
    inMemory retentionDays arrivals = standing retentionDays arrivals := by
  induction arrivals using List.reverseRecOn with
  | nil => rfl
  | append_singleton before arrival ih => rw [inMemory_concat, standing_concat, ih, Journal.append]

theorem mem_of_mem_inMemory {arrivals : List Arrival} {entry : LogEntry}
    (h : entry ∈ inMemory retentionDays arrivals) :
    ∃ arrival ∈ arrivals, arrival.entry = entry := by
  induction arrivals using List.reverseRecOn with
  | nil => exact absurd h List.not_mem_nil
  | append_singleton before arrival ih =>
    rw [inMemory_concat, Journal.append, List.mem_append, List.mem_singleton] at h
    rcases h with h | rfl
    · obtain ⟨earlier, hearlier, rfl⟩ := ih (List.mem_of_mem_filter h)
      exact ⟨earlier, List.mem_append_left _ hearlier, rfl⟩
    · exact ⟨arrival, List.mem_append_right _ (List.mem_singleton_self arrival), rfl⟩

/-! ## One arrival -/

variable {data : Database} {arrival : Arrival}

theorem appendLog_of_fits (hfits : arrival.Fits retentionDays)
    (hproper : arrival.entry.reports.isProper = true)
    (hid : ∀ earlier ∈ data.log, earlier.id ≠ arrival.entry.id) :
    appendLog arrival.now retentionDays arrival.entry (.ofDatabase data) =
      (.ok (), .ofDatabase
        { data with log := data.log.append arrival.now retentionDays arrival.entry }) := by
  obtain ⟨hcutoff, hentry, hwritable⟩ := hfits
  have hstored : arrival.entry.stored = .ok arrival.entry := by
    rw [LogEntry.stored_eq hproper, if_pos hwritable]
  have hfresh :
      ((data.log.filter fun entry => cutoff arrival.now retentionDays ≤ entry.timestamp).any
      fun earlier => earlier.id = arrival.entry.id) = false := by
    rw [List.any_eq_false]
    intro earlier hearlier
    simpa using hid earlier (List.mem_of_mem_filter hearlier)
  simp [appendLog, purgeLog, saveAll, Session.apply, Session.ofDatabase, Session.save,
    hcutoff, purged, Journal.addAll, Journal.add, hstored, hentry, hfresh, Journal.append]

/-- An entry that does not fit is not listed: the log stays as it was, or can no longer be listed at
all. -/
theorem log_of_not_fits (hfits : ¬arrival.Fits retentionDays)
    (hproper : arrival.entry.reports.isProper = true)
    (hworks :
      (appendLog arrival.now retentionDays arrival.entry (.ofDatabase data)).2.stalled = false) :
    (appendLog arrival.now retentionDays arrival.entry (.ofDatabase data)).2.current.log =
      data.log := by
  by_cases hcutoff : fitsWord (cutoff arrival.now retentionDays) = true
  · -- The old entries have been looked through, and what fails is to save the new one.
    have hfails : ∀ log : Journal, ∃ trouble, log.add arrival.entry = .error trouble := by
      intro log
      unfold Journal.add
      rw [LogEntry.stored_eq hproper]
      by_cases hwritable : Json.isWritable arrival.entry.reports = true
      · have hentry : arrival.entry.fits = false := by
          rw [← Bool.not_eq_true]
          intro hentry
          exact hfits ⟨hcutoff, hentry, hwritable⟩
        exact ⟨.tooLarge, by simp [hwritable, hentry]⟩
      · exact ⟨.tooLong, by simp [hwritable]⟩
    obtain ⟨trouble, htrouble⟩ :=
      hfails (data.log.filter fun entry => cutoff arrival.now retentionDays ≤ entry.timestamp)
    simp [appendLog, purgeLog, saveAll, Session.apply, Session.ofDatabase, Session.save,
      hcutoff, purged,
      Journal.addAll, htrouble, Session.abort] at hworks
  · simp [appendLog, purgeLog, Session.apply, Session.ofDatabase, hcutoff]

end Arrival

/-! ## Runs of arrivals -/

/-- The two logs agree after arrivals: the stored one lists what the one in memory holds, and these
are the entries that no later arrival has made forgotten. -/
structure LogsAgree (retentionDays : Int) (data : Database) (arrivals : List Arrival) : Prop where
  held : Arrival.inMemory retentionDays arrivals = Arrival.standing retentionDays arrivals
  listed : (Arrival.inStore retentionDays arrivals (.ofDatabase data)).Lists
    (Arrival.inMemory retentionDays arrivals)

namespace Arrival

variable {retentionDays : Int} {data : Database}

theorem nodup_ids_of_start {before arrivals : List Arrival} (hstart : before <+: arrivals)
    (hids : (arrivals.map (·.entry.id)).Nodup) : (before.map (·.entry.id)).Nodup :=
  hids.sublist (hstart.sublist.map _)

theorem id_ne_of_nodup {before : List Arrival} {arrival : Arrival}
    (hids : ((before ++ [arrival]).map (·.entry.id)).Nodup) {entry : LogEntry}
    (h : entry ∈ inMemory retentionDays before) : entry.id ≠ arrival.entry.id := by
  obtain ⟨earlier, hearlier, rfl⟩ := mem_of_mem_inMemory h
  rw [List.map_append, List.nodup_append] at hids
  exact hids.2.2 _ (List.mem_map_of_mem hearlier) _
    (List.mem_map_of_mem (List.mem_singleton_self arrival))

/-- Entries that fit are stored like those in memory. -/
theorem inStore_of_fits (hdata : data.log = []) {arrivals : List Arrival}
    (hids : (arrivals.map (·.entry.id)).Nodup)
    (hproper : ∀ arrival ∈ arrivals, arrival.entry.reports.isProper = true)
    (hfits : ∀ arrival ∈ arrivals, arrival.Fits retentionDays) :
    inStore retentionDays arrivals (.ofDatabase data) =
      .ofDatabase { data with log := inMemory retentionDays arrivals } := by
  induction arrivals using List.reverseRecOn with
  | nil =>
    have hsame : { data with log := [] } = data := by rw [← hdata]
    change Session.ofDatabase data = .ofDatabase { data with log := [] }
    rw [hsame]
  | append_singleton before arrival ih =>
    have hbefore := ih (nodup_ids_of_start (List.prefix_append ..) hids)
      (fun earlier hmem => hproper earlier (List.mem_append_left _ hmem))
      (fun earlier hmem => hfits earlier (List.mem_append_left _ hmem))
    have hmem : arrival ∈ before ++ [arrival] :=
      List.mem_append_right _ (List.mem_singleton_self arrival)
    rw [inStore_concat, hbefore, inMemory_concat,
      appendLog_of_fits (hfits arrival hmem) (hproper arrival hmem)]
    intro earlier hearlier
    exact id_ne_of_nodup hids hearlier

/-- When earlier entries fit, and the logs agree after one more has arrived, that one fits as
well. -/
theorem fits_of_logsAgree (hdata : data.log = []) (before : List Arrival) {arrival : Arrival}
    (hids : ((before ++ [arrival]).map (·.entry.id)).Nodup)
    (hproper : ∀ other ∈ before ++ [arrival], other.entry.reports.isProper = true)
    (hbefore : ∀ earlier ∈ before, earlier.Fits retentionDays)
    (hagree : LogsAgree retentionDays data (before ++ [arrival])) : arrival.Fits retentionDays := by
  by_contra hfits
  obtain ⟨hworks, hperm⟩ := hagree.listed.perm
  rw [inStore_concat, inStore_of_fits hdata (nodup_ids_of_start (List.prefix_append ..) hids)
    (fun earlier hmem => hproper earlier (List.mem_append_left _ hmem)) hbefore] at hworks hperm
  rw [log_of_not_fits hfits (hproper arrival (List.mem_append_right _ (List.mem_singleton_self _)))
    hworks] at hperm
  -- The entry would have to be listed, and the log has only earlier ones.
  have hlisted : arrival.entry ∈ inMemory retentionDays before := by
    apply hperm.mem_iff.mpr
    rw [inMemory_concat]
    exact List.mem_append_right _ (List.mem_singleton_self _)
  exact id_ne_of_nodup hids hlisted rfl

end Arrival

/-- Of entries with different identifiers and proper reports, the stored log and the log in memory
hold the same after each arrival exactly when every arrival fits. -/
theorem logsAgree_iff {retentionDays : Int} {data : Database} (hdata : data.log = [])
    {arrivals : List Arrival} (hids : (arrivals.map (·.entry.id)).Nodup)
    (hproper : ∀ arrival ∈ arrivals, arrival.entry.reports.isProper = true) :
    (∀ before, before <+: arrivals → LogsAgree retentionDays data before) ↔
      ∀ arrival ∈ arrivals, arrival.Fits retentionDays := by
  constructor
  · intro hagree
    -- from the last arrival: those before it fit already, since all beginnings agree
    induction arrivals using List.reverseRecOn with
    | nil => simp
    | append_singleton before arrival ih =>
      have hbefore := ih (Arrival.nodup_ids_of_start (List.prefix_append ..) hids)
        (fun earlier hmem => hproper earlier (List.mem_append_left _ hmem))
        (fun start hstart => hagree start (hstart.trans (List.prefix_append ..)))
      intro other hother
      rcases List.mem_append.mp hother with hother | hother
      · exact hbefore other hother
      · rw [List.mem_singleton.mp hother]
        exact Arrival.fits_of_logsAgree hdata before hids hproper hbefore (hagree _ List.prefix_rfl)
  · intro hfits before hprefix
    have hsub := hprefix.sublist
    constructor
    · exact Arrival.inMemory_eq_standing before
    · rw [Arrival.inStore_of_fits hdata (Arrival.nodup_ids_of_start hprefix hids)
        (fun arrival hmem => hproper arrival (hsub.subset hmem)) fun arrival hmem =>
          hfits arrival (hsub.subset hmem)]
      exact Session.lists_ofDatabase { data with log := Arrival.inMemory retentionDays before }

/-- The note that an email was looked at, with nothing in its reports. -/
def plainNote (id : String) (timestamp : Int) : LogEntry :=
  { id := id, timestamp := timestamp, emailId := "e", emailSubject := "s", emailFrom := "f"
    rulesChecked := 1, rulesFired := 0 }

def numberedNote (id : String) (timestamp n : Int) : LogEntry :=
  { plainNote id timestamp with
    rules :=
      [{ ruleId := "r", ruleName := "R", matched := false
         conditions :=
           [{ conditionId := "c", kind := "custom_variable", matched := false
              actual := .int n }] }] }

theorem isWritable_numberedNote (id : String) (timestamp n : Int) :
    Json.isWritable (numberedNote id timestamp n).reports = Number.isReadable n := by
  simp [numberedNote, LogEntry.reports, RuleReport.toTimed, RuleReport.toValue,
    ConditionReport.toValue, Value.fields,
    Value.ofText?, Json.isWritable, Json.allWritable, Json.membersWritable]

/-- A clock that goes back leaves an old entry, which the next reading makes forgotten in both
logs. -/
theorem logsAgree_backwards :
    Arrival.inMemory 7 [⟨864000000, plainNote "a" 864000000⟩, ⟨0, numberedNote "b" (-5) 1⟩,
        ⟨864000000, plainNote "c" 0⟩] = [plainNote "a" 864000000, plainNote "c" 0] ∧
      LogsAgree 7 {} [⟨864000000, plainNote "a" 864000000⟩, ⟨0, numberedNote "b" (-5) 1⟩,
        ⟨864000000, plainNote "c" 0⟩] := by
  refine ⟨rfl, ?_⟩
  refine (logsAgree_iff rfl (by decide) ?_).mpr ?_ _ List.prefix_rfl <;> decide +kernel

/-- The logs part when the cutoff is not in a word, when a count is not in a word, and when a number
in the reports has too many digits; and a stored log cannot be asked for a number of entries that is
not in a word. -/
theorem logs_part :
    ¬LogsAgree 1000000000000 {} [⟨1700000000000, plainNote "a" 1700000000000⟩] ∧
    ¬LogsAgree 7 {} [⟨0, { plainNote "a" 0 with rulesChecked := 2 ^ 63 }⟩] ∧
    ¬LogsAgree 7 {} [⟨0, numberedNote "a" 0 (10 ^ 4300)⟩] ∧
    (Store.listLog (some (2 ^ 63)) (.ofDatabase {})).1 = .error .tooLarge := by
  refine ⟨?_, ?_, ?_, rfl⟩
  · intro hagree
    have hfits := Arrival.fits_of_logsAgree rfl [] (by decide) (by decide +kernel) (by simp) hagree
    exact absurd hfits.1 (by decide)
  · intro hagree
    have hfits := Arrival.fits_of_logsAgree rfl [] (by decide) (by decide +kernel) (by simp) hagree
    exact absurd hfits.2.1 (by decide)
  · intro hagree
    have hfits := Arrival.fits_of_logsAgree rfl [] (by decide) (by decide +kernel) (by simp) hagree
    have hreadable : Number.isReadable (10 ^ 4300) = true := by
      rw [← isWritable_numberedNote "a" 0]
      exact hfits.2.2
    rw [Number.isReadable_iff] at hreadable
    exact absurd hreadable (by decide +kernel)

end MailTriage
