import Concord.DropTable
import Concord.Proofs.AddressText
import Mathlib.Data.List.Dedup

/-!
# The table of times and the history of answers

The drop table forgets a client when enough others were answered after it, so what the table holds
is a part of the history of all answers: the last answer to each client, for as many clients as the
table's size, in the order in which they were given (`Answered.recent`). Every call keeps that up
(`Keeps.step`), whatever the times of the calls are.

The main statement is `refuses_exactly`: a client is refused for coming too soon exactly when the
last answer to it lies less than the interval back and fewer clients than the size of the table were
answered since. `client?_eq_iff` says which texts stand for one client.
-/

namespace Concord

namespace Answered

/-- The clients of the answers. -/
def clients (answered : Answered) : List Address := answered.map (·.1)

/-- The last answer to each client, in the order in which they were given. -/
def lastOfEach : Answered → Answered
  | [] => []
  | answer :: later =>
    if answer.1 ∈ clients later then lastOfEach later else answer :: lastOfEach later

/-- The last answers to the `size` clients that were answered last. -/
def recent (history : Answered) (size : Nat) : Answered :=
  (lastOfEach history).drop ((lastOfEach history).length - size)

/-! ## The last answer to each client -/

/-- Every client has one last answer. -/
theorem clients_lastOfEach (history : Answered) :
    clients (lastOfEach history) = (clients history).dedup := by
  induction history with
  | nil => rfl
  | cons answer later ih =>
    show _ = (answer.1 :: clients later).dedup
    by_cases hlater : answer.1 ∈ clients later
    · rw [lastOfEach, if_pos hlater, ih, List.dedup_cons_of_mem hlater]
    · rw [lastOfEach, if_neg hlater, List.dedup_cons_of_notMem hlater, ← ih]
      rfl

/-- There are as many last answers as clients. -/
theorem length_lastOfEach (history : Answered) :
    (lastOfEach history).length = (clients history).dedup.length := by
  rw [← clients_lastOfEach, clients, List.length_map]

/-- No client has two last answers. -/
theorem nodup_lastOfEach (history : Answered) : (clients (lastOfEach history)).Nodup := by
  rw [clients_lastOfEach]
  exact List.nodup_dedup _

/-- An answer takes the place of the last one to its client, and becomes the last of all. -/
theorem lastOfEach_append_singleton (history : Answered) (client : Address) (now : Binary64) :
    lastOfEach (history ++ [(client, now)]) =
      (lastOfEach history).filter (·.1 ≠ client) ++ [(client, now)] := by
  induction history with
  | nil => rfl
  | cons answer later ih =>
    have hclients : answer.1 ∈ clients (later ++ [(client, now)]) ↔
        answer.1 ∈ clients later ∨ answer.1 = client := by
      simp [clients]
    rw [List.cons_append, lastOfEach, ih, lastOfEach]
    by_cases hlater : answer.1 ∈ clients later
    · rw [if_pos (hclients.2 (.inl hlater)), if_pos hlater]
    · by_cases hclient : answer.1 = client
      · rw [if_pos (hclients.2 (.inr hclient)), if_neg hlater,
          List.filter_cons_of_neg (by simpa using hclient)]
      · rw [if_neg fun h => (hclients.1 h).elim hlater hclient, if_neg hlater,
          List.filter_cons_of_pos (by simpa using hclient), List.cons_append]

/-- Behind the last answer to a client stand the last answers of what came after it. -/
theorem lastOfEach_append_cons (earlier : Answered) {later : Answered} {client : Address}
    (last : Binary64) (h : client ∉ clients later) :
    ∃ others, lastOfEach (earlier ++ (client, last) :: later) =
      others ++ (client, last) :: lastOfEach later := by
  induction earlier with
  | nil => exact ⟨[], by rw [List.nil_append, lastOfEach, if_neg h, List.nil_append]⟩
  | cons answer earlier ih =>
    obtain ⟨others, hothers⟩ := ih
    rw [List.cons_append, lastOfEach, hothers]
    by_cases hagain : answer.1 ∈ clients (earlier ++ (client, last) :: later)
    · exact ⟨others, if_pos hagain⟩
    · exact ⟨answer :: others, if_neg hagain⟩

/-- A client that was answered has a last answer. -/
theorem exists_last {history : Answered} {client : Address} (h : client ∈ clients history) :
    ∃ earlier last later, history = earlier ++ (client, last) :: later ∧
      client ∉ clients later := by
  induction history with
  | nil => cases h
  | cons answer rest ih =>
    by_cases hrest : client ∈ clients rest
    · obtain ⟨earlier, last, later, rfl, hlater⟩ := ih hrest
      exact ⟨answer :: earlier, last, later, rfl, hlater⟩
    · rcases List.mem_cons.1 h with rfl | hmem
      · exact ⟨[], answer.2, rest, rfl, hrest⟩
      · exact absurd hmem hrest

/-! ## The answers that are kept -/

/-- The end of a list is the end of what comes last in it. -/
theorem drop_append_of_le {α : Type} (front : List α) {back : List α} {size : Nat}
    (h : size ≤ back.length) :
    (front ++ back).drop ((front ++ back).length - size) = back.drop (back.length - size) := by
  rw [List.length_append, List.drop_append, List.drop_eq_nil_of_le (by omega), List.nil_append]
  congr 1
  omega

/-- Of different clients, taking one out leaves all others. -/
theorem length_le_length_filter {answered : Answered} (h : (clients answered).Nodup)
    (client : Address) :
    answered.length ≤ (answered.filter (·.1 ≠ client)).length + 1 := by
  induction answered with
  | nil => exact Nat.zero_le _
  | cons answer rest ih =>
    obtain ⟨hnot, hrest⟩ := List.nodup_cons.1 h
    by_cases hclient : answer.1 = client
    · -- The client stands nowhere else, so nothing else is taken out.
      have hall : rest.filter (·.1 ≠ client) = rest := by
        refine List.filter_eq_self.2 fun other hother => ?_
        have hne : other.1 ≠ client := by
          intro heq
          exact hnot (List.mem_map.2 ⟨other, hother, heq.trans hclient.symm⟩)
        simpa using hne
      rw [List.filter_cons_of_neg (by simpa using hclient), hall]
      exact Nat.le_refl _
    · rw [List.filter_cons_of_pos (by simpa using hclient), List.length_cons, List.length_cons]
      exact Nat.succ_le_succ (ih hrest)

/-- As many answers are kept as there are clients, up to the size. -/
theorem length_recent (history : Answered) (size : Nat) :
    (recent history size).length = min size (clients history).dedup.length := by
  rw [recent, List.length_drop, length_lastOfEach]
  omega

/-- No client is kept twice. -/
theorem nodup_recent (history : Answered) (size : Nat) : (clients (recent history size)).Nodup := by
  rw [recent, clients, List.map_drop]
  exact (nodup_lastOfEach history).sublist (List.drop_sublist _ _)

/-- Remembering an answer keeps the recent ones of the longer history. -/
theorem remember_recent (history : Answered) (size : Nat) (client : Address) (now : Binary64) :
    (recent history size).remember size client now =
      recent (history ++ [(client, now)]) size := by
  unfold remember
  rw [recent, recent, lastOfEach_append_singleton]
  by_cases hshort : (lastOfEach history).length ≤ size
  · rw [Nat.sub_eq_zero_of_le hshort, List.drop_zero]
  · -- What was forgotten before stands in front of `size` answers that are still kept.
    have hlength : (recent history size).length = size := by
      rw [length_recent, ← length_lastOfEach]
      omega
    have hkept := length_le_length_filter (nodup_recent history size) client
    rw [recent] at hlength hkept
    generalize (lastOfEach history).length - size = gone at hlength hkept ⊢
    have hsplit : (lastOfEach history).filter (·.1 ≠ client) =
        ((lastOfEach history).take gone).filter (·.1 ≠ client) ++
          ((lastOfEach history).drop gone).filter (·.1 ≠ client) := by
      rw [← List.filter_append, List.take_append_drop]
    rw [hsplit, List.append_assoc]
    refine (drop_append_of_le _ ?_).symm
    rw [List.length_append, List.length_singleton]
    omega

/-- A client is found with the time that is kept for it. -/
theorem last?_eq_some_iff {answered : Answered} (h : (clients answered).Nodup) {client : Address}
    {last : Binary64} : answered.last? client = some last ↔ (client, last) ∈ answered := by
  induction answered with
  | nil => simp [last?]
  | cons answer rest ih =>
    obtain ⟨hnot, hrest⟩ := List.nodup_cons.1 h
    by_cases hclient : answer.1 = client
    · subst hclient
      have hfind : last? (answer :: rest) answer.1 = some answer.2 := by simp [last?]
      rw [hfind, Option.some.injEq]
      constructor
      · rintro rfl
        exact List.mem_cons_self
      · intro hmem
        rcases List.mem_cons.1 hmem with heq | hmem
        · exact (congrArg Prod.snd heq).symm
        · exact absurd (List.mem_map_of_mem hmem) hnot
    · have hfind : last? (answer :: rest) client = last? rest client := by simp [last?, hclient]
      rw [hfind, ih hrest, List.mem_cons, or_iff_right]
      exact fun heq => hclient (congrArg Prod.fst heq).symm

/-- The last answer to a client is kept when fewer clients than the size were answered since. -/
theorem mem_recent_iff {earlier later : Answered} {client : Address} {last time : Binary64}
    (h : client ∉ clients later) (size : Nat) :
    (client, time) ∈ recent (earlier ++ (client, last) :: later) size ↔
      time = last ∧ (clients later).dedup.length < size := by
  obtain ⟨others, hothers⟩ := lastOfEach_append_cons earlier last h
  have hnodup := nodup_lastOfEach (earlier ++ (client, last) :: later)
  have hlater : client ∉ clients (lastOfEach later) := by
    rw [clients_lastOfEach]
    exact fun hmem => h (List.mem_dedup.1 hmem)
  rw [recent, ← length_lastOfEach]
  rw [hothers] at hnodup ⊢
  by_cases hfew : (lastOfEach later).length < size
  · rw [List.drop_append_of_le_length (by simp; omega)]
    have hlast : (client, last) ∈ others ++ (client, last) :: lastOfEach later := by simp
    constructor
    · intro hmem
      refine ⟨?_, hfew⟩
      have hall := (List.mem_append.1 hmem).elim
        (fun hfront => List.mem_append_left _ (List.mem_of_mem_drop hfront))
        (List.mem_append_right others)
      have htime := (last?_eq_some_iff hnodup).2 hall
      rw [(last?_eq_some_iff hnodup).2 hlast] at htime
      exact (Option.some.inj htime).symm
    · rintro ⟨rfl, -⟩
      exact List.mem_append_right _ List.mem_cons_self
  · constructor
    · intro hmem
      rw [← List.singleton_append, ← List.append_assoc, drop_append_of_le _ (by omega)] at hmem
      exact absurd (List.mem_map_of_mem (List.mem_of_mem_drop hmem)) hlater
    · rintro ⟨-, hcount⟩
      exact absurd hcount hfew

end Answered

open Answered (clients)

/-- A client was answered less than the interval ago, and fewer than `size` clients since. -/
def AnsweredLately (history : Answered) (size : Nat) (interval : Number) (client : Address)
    (now : Binary64) : Prop :=
  ∃ earlier last later, history = earlier ++ (client, last) :: later ∧ client ∉ clients later ∧
    (Number.real (now.sub last)).lt interval = true ∧ (clients later).dedup.length < size

/-- Of the recent answers, the one to a client tells whether it was answered lately. -/
theorem answeredLately_iff {history : Answered} {size : Nat} {interval : Number}
    {client : Address} {now : Binary64} :
    AnsweredLately history size interval client now ↔
      ∃ last, (history.recent size).last? client = some last ∧
        (Number.real (now.sub last)).lt interval = true := by
  have hnodup := Answered.nodup_recent history size
  constructor
  · rintro ⟨earlier, last, later, rfl, hlater, hsoon, hfew⟩
    exact ⟨last, (Answered.last?_eq_some_iff hnodup).2
      ((Answered.mem_recent_iff hlater size).2 ⟨rfl, hfew⟩), hsoon⟩
  · rintro ⟨time, hfind, hsoon⟩
    have hmem := (Answered.last?_eq_some_iff hnodup).1 hfind
    have hclient : client ∈ clients history := by
      have hkept : client ∈ clients history.lastOfEach :=
        List.mem_map_of_mem (List.mem_of_mem_drop hmem)
      rw [Answered.clients_lastOfEach] at hkept
      exact List.mem_dedup.1 hkept
    obtain ⟨earlier, last, later, rfl, hlater⟩ := Answered.exists_last hclient
    obtain ⟨rfl, hfew⟩ := (Answered.mem_recent_iff hlater size).1 hmem
    exact ⟨earlier, time, later, rfl, hlater, hsoon, hfew⟩

namespace DropTable

/-- A request from an address at a time. -/
structure Call where
  text : String
  now : Binary64

variable {t : DropTable} {size : Nat} {interval : Number}

/-- Whether a client is in a listed network. -/
def lists (t : DropTable) (client : Address) : Bool := t.networks.any (·.contains client)

/-- Whether a call is allowed. -/
def answerTo (t : DropTable) (call : Call) : Except Fault Bool := (t.step call.text call.now).1

/-- The table after a call. -/
def next (t : DropTable) (call : Call) : DropTable := (t.step call.text call.now).2

/-- The table after a number of calls. -/
def after (t : DropTable) (calls : List Call) : DropTable := calls.foldl next t

/-- The client and the time of a call that is allowed. -/
def grantOf (t : DropTable) (call : Call) : Answered :=
  match client? call.text, t.answerTo call with
  | some client, .ok true => [(client, call.now)]
  | _, _ => []

/-- The clients and the times of all calls that are allowed, in their order. -/
def granted (t : DropTable) : List Call → Answered
  | [] => []
  | call :: calls => t.grantOf call ++ (t.next call).granted calls

/-- Whether a call is refused for its time: it comes from a client in no listed network. -/
def isRateRefusal (t : DropTable) (call : Call) : Bool :=
  match client? call.text, t.answerTo call with
  | some client, .ok false => !t.lists client
  | _, _ => false

/-- The number of calls that are refused for their time. -/
def rateRefusals (t : DropTable) : List Call → Nat
  | [] => 0
  | call :: calls => (t.isRateRefusal call).toNat + (t.next call).rateRefusals calls

/-! ## One call -/

/-- The table has a limit of a whole number of clients, at least one, and an interval. -/
structure Limits (t : DropTable) (size : Nat) (interval : Number) : Prop where
  number_size : t.rateSize.number? = some (.int size)
  one_le_size : 1 ≤ size
  number_interval : t.rateInterval.number? = some interval

/-- Whether a kept answer to a client lies less than the interval back. -/
def isRecent (t : DropTable) (interval : Number) (client : Address) (now : Binary64) : Bool :=
  (t.answered.last? client).any fun last => (Number.real (now.sub last)).lt interval

/-- What a call can do to a table with limits, and which answer it gets. -/
inductive Decides (t : DropTable) (size : Nat) (interval : Number) (call : Call) :
    Except Fault Bool → DropTable → Prop
  | unreadable (h : client? call.text = none) : Decides t size interval call (.ok false) t
  | listed (client : Address) (h : client? call.text = some client) (hlisted : t.lists client) :
    Decides t size interval call (.ok false) { t with droppedListed := t.droppedListed + 1 }
  | tooSoon (client : Address) (h : client? call.text = some client)
      (hlisted : t.lists client = false) (hrecent : t.isRecent interval client call.now = true) :
    Decides t size interval call (.ok false) { t with droppedSoon := t.droppedSoon + 1 }
  | allowed (client : Address) (h : client? call.text = some client)
      (hlisted : t.lists client = false) (hrecent : t.isRecent interval client call.now = false) :
    Decides t size interval call (.ok true)
      { t with answered := t.answered.remember size client call.now }

/-- A verdict fixes the answer and the next table. -/
theorem step_of_verdict {call : Call} {verdict : Verdict}
    (h : t.verdict call.text call.now = .ok verdict) :
    t.answerTo call = .ok verdict.isAllowed ∧ t.next call = t.settle call.now verdict := by
  unfold answerTo next step
  rw [h]
  exact ⟨rfl, rfl⟩

/-- With an interval the table can always tell whether an answer is recent. -/
theorem isTooSoon_eq (h : t.Limits size interval) (client : Address) (now : Binary64) :
    t.isTooSoon client now = .ok (t.isRecent interval client now) := by
  unfold isTooSoon isRecent Document.limitFor
  rw [h.number_interval]
  cases t.answered.last? client <;> rfl

/-- A client in no listed network is judged by the last answer to it. -/
theorem verdict_eq (h : t.Limits size interval) {call : Call} {client : Address}
    (hclient : client? call.text = some client) (hlisted : t.lists client = false) :
    t.verdict call.text call.now =
      .ok (if t.isRecent interval client call.now then .tooSoon else .allowed (some client)) := by
  have hoff : t.isOff = false := by
    have hle : (Number.int size).le (.int 0) = false := by
      have := h.one_le_size
      rw [Bool.eq_false_iff, Ne, Number.le_int]
      omega
    simp only [isOff, h.number_size, hle]
  unfold lists at hlisted
  simp only [verdict, hclient, hlisted, hoff, isTooSoon_eq h]
  rfl

/-- Every call is decided. -/
theorem decides (h : t.Limits size interval) (call : Call) :
    t.Decides size interval call (t.answerTo call) (t.next call) := by
  cases hclient : client? call.text with
  | none =>
    have hverdict : t.verdict call.text call.now = .ok .unreadable := by
      simp only [verdict, hclient]
    obtain ⟨hanswer, hnext⟩ := step_of_verdict hverdict
    rw [hanswer, hnext]
    exact .unreadable hclient
  | some client =>
    cases hlisted : t.lists client with
    | true =>
      have hverdict : t.verdict call.text call.now = .ok .listed := by
        simp only [verdict, hclient]
        exact if_pos hlisted
      obtain ⟨hanswer, hnext⟩ := step_of_verdict hverdict
      rw [hanswer, hnext]
      exact .listed client hclient hlisted
    | false =>
      have hverdict := verdict_eq h hclient hlisted
      cases hrecent : t.isRecent interval client call.now with
      | true =>
        rw [hrecent, if_pos rfl] at hverdict
        obtain ⟨hanswer, hnext⟩ := step_of_verdict hverdict
        rw [hanswer, hnext]
        exact .tooSoon client hclient hlisted hrecent
      | false =>
        rw [hrecent, if_neg Bool.false_ne_true] at hverdict
        obtain ⟨hanswer, hnext⟩ := step_of_verdict hverdict
        have hsettle : t.settle call.now (.allowed (some client)) =
            { t with answered := t.answered.remember size client call.now } := by
          simp [settle, remember, capacity?, h.number_size, Number.floor?]
        rw [hanswer, hnext, hsettle]
        exact .allowed client hclient hlisted hrecent

/-- A call changes neither the limits nor the networks. -/
theorem settings_of_decides {call : Call} {answer : Except Fault Bool} {next : DropTable}
    (h : t.Decides size interval call answer next) :
    next.rateSize = t.rateSize ∧ next.rateInterval = t.rateInterval ∧
      next.networks = t.networks := by
  cases h <;> exact ⟨rfl, rfl, rfl⟩

/-- The limits stay after a call. -/
theorem Limits.next (h : t.Limits size interval) (call : Call) :
    (t.next call).Limits size interval := by
  obtain ⟨hsize, hinterval, -⟩ := settings_of_decides (decides h call)
  exact ⟨hsize ▸ h.number_size, h.one_le_size, hinterval ▸ h.number_interval⟩

/-- A call that is not allowed leaves the times of the answers as they are. -/
theorem answered_next (h : t.Limits size interval) {call : Call}
    (hanswer : t.answerTo call = .ok false) : (t.next call).answered = t.answered := by
  have hdecides := decides h call
  rw [hanswer] at hdecides
  generalize t.next call = next at hdecides ⊢
  cases hdecides with
  | unreadable | listed | tooSoon => rfl

/-- A refusal for the time of a call is counted, and nothing else is. -/
theorem droppedSoon_next (h : t.Limits size interval) (call : Call) :
    (t.next call).droppedSoon = t.droppedSoon + (t.isRateRefusal call).toNat := by
  have hdecides := decides h call
  unfold isRateRefusal
  generalize t.answerTo call = answer at hdecides ⊢
  generalize t.next call = next at hdecides ⊢
  cases hdecides with
  | unreadable hclient => simp [hclient]
  | listed client hclient hlisted => simp [hclient, hlisted]
  | tooSoon client hclient hlisted hrecent => simp [hclient, hlisted]
  | allowed client hclient hlisted hrecent => simp [hclient]

/-! ## A number of calls -/

/-- The networks are the same after any number of calls. -/
theorem networks_after (h : t.Limits size interval) (calls : List Call) :
    (t.after calls).networks = t.networks := by
  induction calls generalizing t with
  | nil => rfl
  | cons call calls ih => exact (ih (h.next call)).trans (settings_of_decides (decides h call)).2.2

/-- The refusals for the time of a call are counted. -/
theorem droppedSoon_after (h : t.Limits size interval) (calls : List Call) :
    (t.after calls).droppedSoon = t.droppedSoon + t.rateRefusals calls := by
  induction calls generalizing t with
  | nil => rfl
  | cons call calls ih =>
    rw [rateRefusals, ← Nat.add_assoc, ← droppedSoon_next h]
    exact ih (h.next call)

/-- The table has limits and holds the recent part of a history. -/
structure Keeps (t : DropTable) (size : Nat) (interval : Number) (history : Answered) : Prop
    extends t.Limits size interval where
  answered_eq : t.answered = history.recent size

/-- A call that is allowed becomes part of the history, and the table keeps up. -/
theorem Keeps.step {history : Answered} (h : t.Keeps size interval history) (call : Call) :
    (t.next call).Keeps size interval (history ++ t.grantOf call) := by
  refine ⟨h.toLimits.next call, ?_⟩
  have hdecides := decides h.toLimits call
  unfold grantOf
  generalize t.answerTo call = answer at hdecides ⊢
  generalize t.next call = next at hdecides ⊢
  cases hdecides with
  | unreadable hclient =>
    simp only [hclient, List.append_nil]
    exact h.answered_eq
  | listed client hclient hlisted | tooSoon client hclient hlisted hrecent =>
    simp only [hclient, List.append_nil]
    exact h.answered_eq
  | allowed client hclient hlisted hrecent =>
    simp only [hclient]
    rw [h.answered_eq, Answered.remember_recent]

/-- The table keeps up with any number of calls. -/
theorem Keeps.run {history : Answered} (h : t.Keeps size interval history) (calls : List Call) :
    (t.after calls).Keeps size interval (history ++ t.granted calls) := by
  induction calls generalizing t history with
  | nil =>
    rw [granted, List.append_nil]
    exact h
  | cons call calls ih =>
    rw [granted, ← List.append_assoc]
    exact ih (h.step call)

/-- A table that starts without times holds the recent part of its own answers. -/
theorem keeps_granted (h : t.Limits size interval) (hempty : t.answered = [])
    (calls : List Call) : (t.after calls).Keeps size interval (t.granted calls) := by
  have hstart : t.Keeps size interval [] :=
    ⟨h, by rw [hempty, Answered.recent, Answered.lastOfEach, List.drop_nil]⟩
  exact hstart.run calls

/-- A table that keeps a history refuses a client for its time when it was answered lately. -/
theorem Keeps.refuses_iff {history : Answered} (h : t.Keeps size interval history) {call : Call}
    {client : Address} (hclient : client? call.text = some client)
    (hlisted : t.lists client = false) :
    ∃ allowed, t.answerTo call = .ok allowed ∧
      (allowed = false ↔ AnsweredLately history size interval client call.now) := by
  have hverdict := verdict_eq h.toLimits hclient hlisted
  have hlately : t.isRecent interval client call.now = true ↔
      AnsweredLately history size interval client call.now := by
    rw [answeredLately_iff, isRecent, h.answered_eq, Option.any_eq_true]
  refine ⟨_, (step_of_verdict hverdict).1, ?_⟩
  rw [← hlately]
  cases t.isRecent interval client call.now <;> simp [Verdict.isAllowed]

/-! ## Texts of clients -/

/-- Two texts stand for one client when the addresses in them, taken out where one is embedded in
the other version, are the same. The texts of the clients then are the same, too. -/
theorem client?_eq_iff {s s' : String} {a a' : Address}
    (ha : Address.read? (s.toList.takeWhile (· ≠ '%')) = some a)
    (ha' : Address.read? (s'.toList.takeWhile (· ≠ '%')) = some a') :
    (client? s = client? s' ↔ a.unmapped = a'.unmapped) ∧
      ((client? s).map Address.text = (client? s').map Address.text ↔
        a.unmapped = a'.unmapped) := by
  have hclient : client? s = some a.unmapped := congrArg (Option.map Address.unmapped) ha
  have hclient' : client? s' = some a'.unmapped := congrArg (Option.map Address.unmapped) ha'
  rw [hclient, hclient', Option.map_some, Option.map_some, Option.some.injEq, Option.some.injEq,
    Address.text_inj]
  exact ⟨Iff.rfl, Iff.rfl⟩

/-! ## The law -/

/-- A table with limits that starts without times decides by the history of its answers. After any
calls, at whatever times, a readable client in no listed network is refused exactly when it was
answered lately, and clients are told apart by the addresses that their texts stand for. The table
holds as many clients as were ever answered, up to its size; it counts the refusals for the time of
a call and nothing else; and a call that is not allowed leaves the times as they are. -/
theorem refuses_exactly (h : t.Limits size interval) (hempty : t.answered = []) :
    (∀ (calls : List Call) (call : Call) (client : Address), client? call.text = some client →
      t.lists client = false →
      ∃ allowed, (t.after calls).answerTo call = .ok allowed ∧
        (allowed = false ↔
          AnsweredLately (t.granted calls) size interval client call.now)) ∧
    (∀ (s s' : String) (a a' : Address),
      Address.read? (s.toList.takeWhile (· ≠ '%')) = some a →
      Address.read? (s'.toList.takeWhile (· ≠ '%')) = some a' →
      (client? s = client? s' ↔ a.unmapped = a'.unmapped) ∧
        ((client? s).map Address.text = (client? s').map Address.text ↔
          a.unmapped = a'.unmapped)) ∧
    ∀ calls : List Call,
      (t.after calls).tracked = min size (clients (t.granted calls)).dedup.length ∧
      (t.after calls).droppedSoon = t.droppedSoon + t.rateRefusals calls ∧
      ∀ call, (t.after calls).answerTo call = .ok false →
        ((t.after calls).next call).answered = (t.after calls).answered := by
  refine ⟨?_, fun s s' a a' => client?_eq_iff, ?_⟩
  · intro calls call client hclient hlisted
    refine (keeps_granted h hempty calls).refuses_iff hclient ?_
    rw [lists, networks_after h]
    exact hlisted
  · intro calls
    have hkeeps := keeps_granted h hempty calls
    refine ⟨?_, droppedSoon_after h calls, fun call => answered_next hkeeps.toLimits⟩
    rw [tracked, hkeeps.answered_eq, Answered.length_recent]

/-- A client that was answered is refused a second later, when the table's interval is two seconds,
also if its address comes embedded and with a zone. -/
theorem refused_second_later :
    let t : DropTable := {}
    let calls : List Call := [⟨"192.0.2.1", .ofInt 100⟩]
    (t.after calls).answerTo ⟨"::ffff:192.0.2.1%eth0", .ofInt 101⟩ = .ok false := by
  intro t calls
  have hlimits : t.Limits 4096 (.real (.ofInt 2)) := ⟨rfl, by decide, rfl⟩
  obtain ⟨allowed, hanswer, hiff⟩ := (refuses_exactly hlimits rfl).1 calls
    ⟨"::ffff:192.0.2.1%eth0", .ofInt 101⟩ (.v4 0xc0000201) (by decide +kernel) rfl
  have hgranted : t.granted calls = [(.v4 0xc0000201, .ofInt 100)] := by decide +kernel
  have hrefused : allowed = false := by
    rw [hiff, hgranted]
    exact ⟨[], .ofInt 100, [], rfl, List.not_mem_nil, by decide +kernel, by decide⟩
  rw [hanswer, hrefused]

end DropTable

end Concord
