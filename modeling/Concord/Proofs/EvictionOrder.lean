import Concord.Proofs.Majority
import Concord.Proofs.RateHistory

/-!
# Which client is forgotten

A client takes the last place among the remembered ones when it is answered, and keeps the place it
has when it is refused for its time. So the client that is forgotten is the one that was answered
longest ago, and one that asked again within its interval may be forgotten before clients that have
been silent since.

The calls that reach the rule of the times (`requests`) are those that are answered (`granted`) and
those that it refuses (`refused`). The main statement is `forgets_oldestAnswer`: it says when the
client that is forgotten asked later than one that stays.
-/

namespace Concord

namespace Binary64

/-- A number below a smaller or equal one is smaller. -/
theorem lt_of_lt_of_le {x y z : Binary64} (hxy : x.lt y = true) (hyz : y.le z = true) :
    x.lt z = true := by
  simp only [lt, le, Bool.and_eq_true, decide_eq_true_eq] at hxy hyz ⊢
  exact ⟨⟨hxy.1.1, hyz.1.2⟩, Int.lt_of_lt_of_le hxy.2 hyz.2⟩

/-- A smaller number has an earlier position. -/
theorem rank_lt_of_lt {x y : Binary64} (h : x.lt y = true) : x.rank < y.rank := by
  simp only [lt, Bool.and_eq_true, decide_eq_true_eq] at h
  exact h.2

end Binary64

namespace Answered

/-! ## Histories in the order of time -/

/-- The last answers stand in the order of the history. -/
theorem lastOfEach_sublist (history : Answered) : (lastOfEach history).Sublist history := by
  induction history with
  | nil => exact List.Sublist.slnil
  | cons answer later ih =>
    rw [lastOfEach]
    split
    · exact ih.cons answer
    · exact ih.cons_cons answer

/-- The answers stand in the order of their times. -/
def InTime (history : Answered) : Prop := history.Pairwise fun a b => a.2.le b.2 = true

/-- In a history in the order of time, no answer to a client is later than its last one. -/
theorem le_lastOfEach {history : Answered} (h : history.InTime) {client : Address}
    {time last : Binary64} (htime : (client, time) ∈ history)
    (hlast : (client, last) ∈ lastOfEach history) : time = last ∨ time.le last = true := by
  induction history with
  | nil => cases htime
  | cons answer later ih =>
    obtain ⟨hfirst, hlater⟩ := List.pairwise_cons.1 h
    rcases List.mem_cons.1 htime with rfl | hmem
    · rcases List.mem_cons.1 ((lastOfEach_sublist _).subset hlast) with heq | hbehind
      · exact .inl (congrArg Prod.snd heq).symm
      · exact .inr (hfirst _ hbehind)
    · -- The client is answered again, so its last answer stands behind the first one of all.
      have hagain : client ∈ clients later := List.mem_map_of_mem hmem
      refine ih hlater hmem ?_
      rw [lastOfEach] at hlast
      split at hlast
      · exact hlast
      · rename_i hnot
        rcases List.mem_cons.1 hlast with rfl | hbehind
        · exact absurd hagain hnot
        · exact hbehind

/-- The clients are those with an answer. -/
theorem mem_clients {history : Answered} {client : Address} :
    client ∈ clients history ↔ ∃ time, (client, time) ∈ history := by
  constructor
  · intro h
    obtain ⟨⟨_, time⟩, hmem, rfl⟩ := List.mem_map.1 h
    exact ⟨time, hmem⟩
  · rintro ⟨time, hmem⟩
    exact List.mem_map.2 ⟨_, hmem, rfl⟩

/-- A client that was answered has a last answer. -/
theorem exists_mem_lastOfEach {history : Answered} {client : Address} {time : Binary64}
    (h : (client, time) ∈ history) : ∃ last, (client, last) ∈ lastOfEach history := by
  rw [← mem_clients, clients_lastOfEach]
  exact List.mem_dedup.2 (mem_clients.2 ⟨time, h⟩)

/-- The last answers that are forgotten stand in front of those that are kept. -/
theorem pair_sublist {history : Answered} {size : Nat} {gone kept : Address × Binary64}
    (hgone : gone ∈ lastOfEach history) (hforgotten : gone ∉ recent history size)
    (hkept : kept ∈ recent history size) : [gone, kept].Sublist history := by
  unfold recent at hforgotten hkept
  generalize (lastOfEach history).length - size = n at hforgotten hkept
  have hfront : gone ∈ (lastOfEach history).take n := by
    rw [← List.take_append_drop n (lastOfEach history)] at hgone
    exact (List.mem_append.1 hgone).resolve_right hforgotten
  have hpair : ([gone] ++ [kept]).Sublist
      ((lastOfEach history).take n ++ (lastOfEach history).drop n) :=
    (List.singleton_sublist.2 hfront).append (List.singleton_sublist.2 hkept)
  rw [List.take_append_drop] at hpair
  exact hpair.trans (lastOfEach_sublist history)

/-- In a history in the order of time, no answer that is forgotten is later than one that is
kept. -/
theorem le_of_forgotten {history : Answered} (h : history.InTime) {size : Nat}
    {gone kept : Address × Binary64} (hgone : gone ∈ lastOfEach history)
    (hforgotten : gone ∉ recent history size) (hkept : kept ∈ recent history size) :
    gone.2.le kept.2 = true := by
  have hpair : [gone, kept].Pairwise fun a b => a.2.le b.2 = true :=
    List.Pairwise.sublist (pair_sublist hgone hforgotten hkept) h
  exact (List.pairwise_cons.1 hpair).1 kept List.mem_cons_self

end Answered

namespace DropTable

open Answered (clients lastOfEach)

variable {t : DropTable} {size : Nat} {interval : Number}

/-! ## The calls that reach the rule of the times -/

/-- The client and the time of a call that comes from a client in no listed network. -/
def requestOf (t : DropTable) (call : Call) : List (Address × Binary64) :=
  match client? call.text with
  | some client => if t.lists client then [] else [(client, call.now)]
  | none => []

/-- The clients and the times of all these calls, in their order. -/
def requests (t : DropTable) (calls : List Call) : List (Address × Binary64) :=
  calls.flatMap t.requestOf

/-- The client and the time of a call that is refused for its time. -/
def refusalOf (t : DropTable) (call : Call) : List (Address × Binary64) :=
  if t.isRateRefusal call then t.requestOf call else []

/-- The clients and the times of all calls that are refused for their time, in their order. -/
def refused (t : DropTable) : List Call → List (Address × Binary64)
  | [] => []
  | call :: calls => t.refusalOf call ++ (t.next call).refused calls

/-- A call that reaches the rule is either answered or refused. -/
theorem requestOf_cases (h : t.Limits size interval) (call : Call) :
    (t.grantOf call = t.requestOf call ∧ t.refusalOf call = []) ∨
      (t.grantOf call = [] ∧ t.refusalOf call = t.requestOf call) := by
  have hdecides := decides h call
  unfold grantOf refusalOf isRateRefusal requestOf
  generalize t.answerTo call = answer at hdecides ⊢
  generalize t.next call = next at hdecides
  cases hdecides with
  | unreadable hclient => simp [hclient]
  | listed client hclient hlisted => simp [hclient, hlisted]
  | tooSoon client hclient hlisted hrecent => simp [hclient, hlisted]
  | allowed client hclient hlisted hrecent => simp [hclient, hlisted]

/-- Which calls reach the rule does not change. -/
theorem requests_next (h : t.Limits size interval) (call : Call) (calls : List Call) :
    (t.next call).requests calls = t.requests calls := by
  have hnetworks : (t.next call).networks = t.networks :=
    (settings_of_decides (decides h call)).2.2
  unfold requests requestOf lists
  rw [hnetworks]

/-- The calls that are answered are calls that reach the rule. -/
theorem granted_sublist (h : t.Limits size interval) (calls : List Call) :
    (t.granted calls).Sublist (t.requests calls) := by
  induction calls generalizing t with
  | nil => exact List.Sublist.slnil
  | cons call calls ih =>
    have hrest := ih (h.next call)
    rw [requests_next h] at hrest
    show (t.grantOf call ++ (t.next call).granted calls).Sublist
      (t.requestOf call ++ t.requests calls)
    rcases requestOf_cases h call with ⟨hgrant, -⟩ | ⟨hgrant, -⟩
    · rw [hgrant]
      exact (List.Sublist.refl _).append hrest
    · rw [hgrant]
      exact (List.nil_sublist _).append hrest

/-- Every call that reaches the rule is answered or refused. -/
theorem mem_requests (h : t.Limits size interval) {calls : List Call}
    {request : Address × Binary64} :
    request ∈ t.requests calls ↔ request ∈ t.granted calls ∨ request ∈ t.refused calls := by
  induction calls generalizing t with
  | nil => exact ⟨nofun, (Or.elim · nofun nofun)⟩
  | cons call calls ih =>
    have hrest := ih (h.next call)
    rw [requests_next h] at hrest
    show request ∈ t.requestOf call ++ t.requests calls ↔
      request ∈ t.grantOf call ++ (t.next call).granted calls ∨
        request ∈ t.refusalOf call ++ (t.next call).refused calls
    rw [List.mem_append, List.mem_append, List.mem_append, hrest]
    rcases requestOf_cases h call with ⟨hgrant, hrefusal⟩ | ⟨hgrant, hrefusal⟩
    · rw [hgrant, hrefusal]
      simp [or_assoc]
    · rw [hgrant, hrefusal]
      simp [or_left_comm]

/-- A call makes one request at most, at its own time. -/
theorem requestOf_eq (t : DropTable) (call : Call) :
    t.requestOf call = [] ∨ ∃ client, t.requestOf call = [(client, call.now)] := by
  unfold requestOf
  split
  · rename_i client _
    cases t.lists client with
    | true => exact .inl rfl
    | false => exact .inr ⟨client, rfl⟩
  · exact .inl rfl

/-- Calls in the order of time make requests in the order of time. -/
theorem requests_inTime {calls : List Call}
    (h : calls.Pairwise fun a b => a.now.le b.now = true) :
    Answered.InTime (t.requests calls) := by
  have htime {call : Call} {request : Address × Binary64} (hmem : request ∈ t.requestOf call) :
      request.2 = call.now := by
    obtain hnone | ⟨client, hone⟩ := t.requestOf_eq call
    · rw [hnone] at hmem
      cases hmem
    · rw [hone] at hmem
      rw [List.mem_singleton.1 hmem]
  refine List.pairwise_flatMap.2 ⟨?_, ?_⟩
  · intro call _
    obtain hnone | ⟨client, hone⟩ := t.requestOf_eq call
    · rw [hnone]
      exact List.Pairwise.nil
    · rw [hone]
      exact List.pairwise_singleton _ _
  · refine h.imp fun {a b} hle => ?_
    intro r hr s hs
    rw [htime hr, htime hs]
    exact hle

/-- The calls that were answered stay so when more calls follow. -/
theorem granted_append (t : DropTable) (calls later : List Call) :
    t.granted (calls ++ later) = t.granted calls ++ (t.after calls).granted later := by
  induction calls generalizing t with
  | nil => rfl
  | cons call calls ih =>
    rw [List.cons_append, granted, granted, ih, List.append_assoc]
    rfl

/-! ## The order of forgetting -/

/-- Of two clients, the one whose last answer is no later asked later if and only if it was refused
for its time since the other one asked for the last time. -/
theorem askedLater_iff (h : t.Limits size interval) {calls : List Call}
    (htimes : Answered.InTime (t.requests calls)) {gone kept : Address}
    {goneAnswer keptAnswer goneAsked keptAsked : Binary64}
    (hgoneAnswer : (gone, goneAnswer) ∈ lastOfEach (t.granted calls))
    (hkeptAnswer : (kept, keptAnswer) ∈ t.granted calls)
    (hanswers : goneAnswer.le keptAnswer = true)
    (hgoneAsked : (gone, goneAsked) ∈ lastOfEach (t.requests calls))
    (hkeptAsked : (kept, keptAsked) ∈ lastOfEach (t.requests calls)) :
    keptAsked.lt goneAsked = true ↔
      ∃ time, (gone, time) ∈ t.refused calls ∧ keptAsked.lt time = true := by
  have hgranted : Answered.InTime (t.granted calls) :=
    List.Pairwise.sublist (granted_sublist h calls) htimes
  constructor
  · intro hlater
    rcases (mem_requests h).1 ((Answered.lastOfEach_sublist _).subset hgoneAsked) with
      hanswered | hrefused
    · -- The first client asked for the last time when it was answered, the second no earlier.
      have hrank {x y : Binary64} (hle : x = y ∨ x.le y = true) : x.rank ≤ y.rank :=
        hle.elim (fun heq => heq ▸ Int.le_refl _) Binary64.rank_le_of_le
      have hgone := hrank (Answered.le_lastOfEach hgranted hanswered hgoneAnswer)
      have hkept := hrank
        (Answered.le_lastOfEach htimes ((mem_requests h).2 (.inl hkeptAnswer)) hkeptAsked)
      have hbetween := Binary64.rank_le_of_le hanswers
      have habove := Binary64.rank_lt_of_lt hlater
      omega
    · exact ⟨goneAsked, hrefused, hlater⟩
  · rintro ⟨time, hrefused, hlater⟩
    rcases Answered.le_lastOfEach htimes ((mem_requests h).2 (.inr hrefused)) hgoneAsked with
      rfl | hle
    · exact hlater
    · exact Binary64.lt_of_lt_of_le hlater hle

/-- In a table that starts without times and is called in the order of time, a client that was
remembered and is so no longer was answered no later than any client that is remembered. It asked
later than such a client if and only if it was refused for its time since that client asked for the
last time. -/
theorem forgets_oldestAnswer (h : t.Limits size interval) (hempty : t.answered = [])
    (calls later : List Call)
    (htimes : (calls ++ later).Pairwise fun a b => a.now.le b.now = true)
    {gone kept : Address} (hgone : gone ∈ clients (t.after calls).answered)
    (hforgotten : gone ∉ clients (t.after (calls ++ later)).answered)
    (hkept : kept ∈ clients (t.after (calls ++ later)).answered) :
    (∃ goneAnswer keptAnswer,
      (gone, goneAnswer) ∈ lastOfEach (t.granted (calls ++ later)) ∧
      (kept, keptAnswer) ∈ lastOfEach (t.granted (calls ++ later)) ∧
      goneAnswer.le keptAnswer = true) ∧
    ∃ goneAsked keptAsked,
      (gone, goneAsked) ∈ lastOfEach (t.requests (calls ++ later)) ∧
      (kept, keptAsked) ∈ lastOfEach (t.requests (calls ++ later)) ∧
      (keptAsked.lt goneAsked = true ↔
        ∃ time, (gone, time) ∈ t.refused (calls ++ later) ∧ keptAsked.lt time = true) := by
  have hrequests := requests_inTime (t := t) htimes
  have hgranted : Answered.InTime (t.granted (calls ++ later)) :=
    List.Pairwise.sublist (granted_sublist h _) hrequests
  rw [(keeps_granted h hempty calls).answered_eq] at hgone
  rw [(keeps_granted h hempty (calls ++ later)).answered_eq] at hforgotten hkept
  obtain ⟨earlier, hearlier⟩ := Answered.mem_clients.1 hgone
  obtain ⟨keptAnswer, hkeptAnswer⟩ := Answered.mem_clients.1 hkept
  have hanswered : (gone, earlier) ∈ t.granted (calls ++ later) := by
    rw [granted_append]
    exact List.mem_append_left _
      ((Answered.lastOfEach_sublist _).subset (List.mem_of_mem_drop hearlier))
  obtain ⟨goneAnswer, hgoneAnswer⟩ := Answered.exists_mem_lastOfEach hanswered
  have hkeptLast : (kept, keptAnswer) ∈ lastOfEach (t.granted (calls ++ later)) :=
    List.mem_of_mem_drop hkeptAnswer
  have hkeptGranted := (Answered.lastOfEach_sublist _).subset hkeptLast
  have hanswers : goneAnswer.le keptAnswer = true :=
    Answered.le_of_forgotten hgranted hgoneAnswer
      (fun hmem => hforgotten (Answered.mem_clients.2 ⟨_, hmem⟩)) hkeptAnswer
  obtain ⟨goneAsked, hgoneAsked⟩ :=
    Answered.exists_mem_lastOfEach ((mem_requests h).2 (.inl hanswered))
  obtain ⟨keptAsked, hkeptAsked⟩ :=
    Answered.exists_mem_lastOfEach ((mem_requests h).2 (.inl hkeptGranted))
  exact ⟨⟨goneAnswer, keptAnswer, hgoneAnswer, hkeptLast, hanswers⟩, goneAsked, keptAsked,
    hgoneAsked, hkeptAsked,
    askedLater_iff h hrequests hgoneAnswer hkeptGranted hanswers hgoneAsked hkeptAsked⟩

/-- A table for two clients with an interval of a hundred seconds. -/
def tableForTwo : DropTable := { rateSize := .int 2, rateInterval := .real (.ofInt 100) }

/-- The first of two clients asks again before the hundred seconds are over. -/
def askedAgain : List Call :=
  [⟨"192.0.2.1", .ofInt 1⟩, ⟨"192.0.2.2", .ofInt 2⟩, ⟨"192.0.2.1", .ofInt 3⟩]

/-- A third client asks. -/
def thirdClient : List Call := [⟨"192.0.2.3", .ofInt 4⟩]

/-- The first client is forgotten for the third. It was answered no later than the second one, and
it asked later exactly because of its refusal. -/
theorem forgotten_for_thirdClient :
    ∃ goneAsked keptAsked : Binary64,
      (.v4 0xc0000201, goneAsked) ∈ lastOfEach (tableForTwo.requests (askedAgain ++ thirdClient)) ∧
      (.v4 0xc0000202, keptAsked) ∈ lastOfEach (tableForTwo.requests (askedAgain ++ thirdClient)) ∧
      (keptAsked.lt goneAsked = true ↔
        ∃ time, (.v4 0xc0000201, time) ∈ tableForTwo.refused (askedAgain ++ thirdClient) ∧
          keptAsked.lt time = true) := by
  have hlimits : tableForTwo.Limits 2 (.real (.ofInt 100)) := ⟨rfl, by decide, rfl⟩
  have htimes : (askedAgain ++ thirdClient).Pairwise fun a b => a.now.le b.now = true := by
    decide +kernel
  exact (forgets_oldestAnswer hlimits rfl askedAgain thirdClient htimes (by decide +kernel)
    (by decide +kernel) (by decide +kernel)).2

/-- The client that is forgotten has asked later than one that stays: the two did not ask in the
order in which they are forgotten. -/
theorem forgotten_after_asking :
    (askedAgain ++ thirdClient).Pairwise (fun a b => a.now.le b.now = true) ∧
    .v4 0xc0000201 ∈ clients (tableForTwo.after askedAgain).answered ∧
    .v4 0xc0000201 ∉ clients (tableForTwo.after (askedAgain ++ thirdClient)).answered ∧
    .v4 0xc0000202 ∈ clients (tableForTwo.after (askedAgain ++ thirdClient)).answered ∧
    (.v4 0xc0000201, .ofInt 3) ∈ lastOfEach (tableForTwo.requests (askedAgain ++ thirdClient)) ∧
    (.v4 0xc0000202, .ofInt 2) ∈ lastOfEach (tableForTwo.requests (askedAgain ++ thirdClient)) ∧
    (Binary64.ofInt 2).lt (.ofInt 3) = true := by
  decide +kernel

end DropTable

end Concord
