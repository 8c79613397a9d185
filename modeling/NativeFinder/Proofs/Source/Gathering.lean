import Mathlib.Data.List.Induction
import Mathlib.Data.List.Perm.Subperm
import NativeFinder.Source.WebLoad

/-!
# What a load from the web comes to

The transfers of a load take their steps in any order. `exists_load_of_every_schedule` says that
this order does not matter: for the replies to the single requests there is one load, described by
`Load.IsVerdict` in terms of the positions in the list alone, that every schedule leads to as soon
as each transfer has had its two steps, and before that the load is not over.

The invariant is `IsAfter`: a transfer has as many steps left as the schedule has not yet given it,
its source and its result are untouched, and the requests made and still ahead are together those of
the beginning. A load that is over no longer takes steps, but then no transfer has any left, so that
the invariant also holds beyond the end.
-/

namespace NativeFinder

/-! ### The steps of a transfer -/

namespace Transfer

/-- How many steps a transfer still has to take: its requests, and the one with which it settles. -/
def stepsLeft (t : Transfer) : Nat :=
  match t.stage with
  | .underway ahead => ahead.length + 1
  | .settled => 0

theorem isSettled_iff {t : Transfer} : t.isSettled = true ↔ t.stepsLeft = 0 := by
  unfold isSettled stepsLeft
  cases t.stage <;> simp

theorem stepsLeft_advance (t : Transfer) : t.advance.stepsLeft = t.stepsLeft - 1 := by
  unfold advance stepsLeft
  cases t.stage with
  | settled => rfl
  | underway ahead => cases ahead <;> rfl

theorem outcome_advance (t : Transfer) : t.advance.outcome = t.outcome := by
  unfold advance
  cases t.stage with
  | settled => rfl
  | underway ahead => cases ahead <;> rfl

/-- A step makes the first of the requests that are ahead. -/
theorem head?_append_ahead_advance (t : Transfer) :
    t.ahead.head?.toList ++ t.advance.ahead = t.ahead := by
  unfold ahead advance
  cases t.stage with
  | settled => rfl
  | underway ahead => cases ahead <;> rfl

theorem ahead_of_isSettled {t : Transfer} (h : t.isSettled = true) : t.ahead = [] := by
  have hstage : t.stage = .settled := by simpa [isSettled] using h
  rw [ahead, hstage]

/-- The transfer of an address whose request is answered and not followed. -/
def ofReply (reply : Text × ReplyOutcome) : Transfer :=
  { source := .text reply.1, stage := .underway [reply.1], result := .ofOutcome reply.2 }

theorem result_ofReply_ne_interrupted {reply : Text × ReplyOutcome} (h : reply.2 ≠ .interrupted) :
    (ofReply reply).result ≠ .interrupted := by
  obtain ⟨address, outcome⟩ := reply
  cases outcome with
  | interrupted => exact absurd rfl h
  | broken fault message => simp [ofReply, Retrieval.ofOutcome]
  | unexpected label message => simp [ofReply, Retrieval.ofOutcome]
  | response r =>
    cases hr : r.isSuccess <;> simp [ofReply, Retrieval.ofOutcome, Retrieval.ofResponse, hr]

end Transfer

namespace Gathering

open List (Perm Subperm)

variable {g : Gathering} {transfers : List Transfer} {schedule : List Nat}

/-- The requests that the transfers of a list still have to make. -/
def aheadOf (transfers : List Transfer) : List Text := transfers.flatMap Transfer.ahead

/-! ### One step -/

/-- Transfers that no interruption by the user meets. -/
def Uninterrupted (transfers : List Transfer) : Prop := ∀ t ∈ transfers, t.result ≠ .interrupted

theorem Uninterrupted.of_map_outcome {us : List Transfer} (h : Uninterrupted transfers)
    (hus : us.map Transfer.outcome = transfers.map Transfer.outcome) : Uninterrupted us := by
  intro u hu
  have hmem : u.outcome ∈ transfers.map Transfer.outcome := hus ▸ List.mem_map_of_mem hu
  obtain ⟨t, ht, heq⟩ := List.mem_map.mp hmem
  have hresult : t.result = u.result := congrArg Prod.snd heq
  exact hresult ▸ h t ht

/-- **A load is over** when all of its transfers have settled, and comes to what they come to. -/
theorem result?_eq (h : Uninterrupted g.transfers) :
    g.result? =
      if g.transfers.all Transfer.isSettled then some (collect (g.transfers.map Transfer.outcome))
      else none := by
  have hnot : g.isInterrupted = false := by
    rw [isInterrupted, List.any_eq_false]
    intro t ht
    simp [h t ht]
  rw [result?, hnot]
  rfl

theorem isSome_result?_iff (h : Uninterrupted g.transfers) :
    g.result?.isSome = true ↔ ∀ t ∈ g.transfers, t.isSettled = true := by
  rw [result?_eq h]
  split <;> simp_all

/-- A step of one transfer makes the first of its requests, and leaves the others ahead. -/
theorem perm_aheadOf_modify (ts : List Transfer) (place : Nat) :
    Perm ((ts[place]?.bind fun t => t.ahead.head?).toList ++
      aheadOf (ts.modify place Transfer.advance)) (aheadOf ts) := by
  induction ts generalizing place with
  | nil => simp [aheadOf]
  | cons t ts ih =>
    cases place with
    | zero =>
      simp only [List.getElem?_cons_zero, Option.bind_some, List.modify_zero_cons, aheadOf,
        List.flatMap_cons]
      rw [← List.append_assoc, t.head?_append_ahead_advance]
    | succ place =>
      simp only [List.getElem?_cons_succ, List.modify_succ_cons, aheadOf, List.flatMap_cons]
      -- what is ahead of the first transfer stands between the request and the others
      refine Perm.trans ?_ ((ih place).append_left t.ahead)
      rw [← List.append_assoc, ← List.append_assoc]
      exact List.perm_append_comm.append_right _

/-! ### Schedules -/

/-- Where a load stands when its transfers have been given steps by a schedule. -/
structure IsAfter (transfers : List Transfer) (schedule : List Nat) (g : Gathering) : Prop where
  stepsLeft : ∀ place : Nat, g.transfers[place]?.map Transfer.stepsLeft =
    transfers[place]?.map fun t => t.stepsLeft - schedule.count place
  outcomes : g.transfers.map Transfer.outcome = transfers.map Transfer.outcome
  requests : Perm (g.requests ++ aheadOf g.transfers) (aheadOf transfers)

theorem isAfter_start (transfers : List Transfer) : IsAfter transfers [] (start transfers) where
  stepsLeft place := by simp [start]
  outcomes := rfl
  requests := by simp [start]

/-- A transfer of the beginning is still there, with the steps that the schedule has left it. -/
theorem IsAfter.exists_of_getElem?_eq_some (h : IsAfter transfers schedule g) {place : Nat}
    {t : Transfer} (ht : transfers[place]? = some t) :
    ∃ u, g.transfers[place]? = some u ∧ u.stepsLeft = t.stepsLeft - schedule.count place := by
  simpa [ht, Option.map_eq_some_iff] using h.stepsLeft place

/-- A load that is over is also where it stands after one more step of the schedule. -/
theorem IsAfter.of_isSettled (h : IsAfter transfers schedule g)
    (hsettled : ∀ t ∈ g.transfers, t.isSettled = true) (place : Nat) :
    IsAfter transfers (schedule ++ [place]) g where
  stepsLeft i := by
    cases ht : transfers[i]? with
    | none => rw [h.stepsLeft i, ht, Option.map_none, Option.map_none]
    | some t =>
      obtain ⟨u, hu, hsteps⟩ := h.exists_of_getElem?_eq_some ht
      -- the step is lost, but the transfer had none left to lose
      have hzero : u.stepsLeft = 0 :=
        Transfer.isSettled_iff.mp (hsettled u (List.mem_of_getElem? hu))
      rw [hu, Option.map_some, Option.map_some, List.count_append]
      congr 1
      omega
  outcomes := h.outcomes
  requests := h.requests

/-- **One step**: the transfer at the place has one step less to take. -/
theorem IsAfter.advance (h : IsAfter transfers schedule g) (hu : Uninterrupted transfers)
    (place : Nat) : IsAfter transfers (schedule ++ [place]) (g.advance place) := by
  have hu' : Uninterrupted g.transfers := hu.of_map_outcome h.outcomes
  rw [Gathering.advance]
  split
  · rename_i hover
    exact h.of_isSettled ((isSome_result?_iff hu').mp hover) place
  · refine ⟨fun i => ?_, ?_, ?_⟩
    · have hstep : (g.transfers.modify place Transfer.advance)[i]?.map Transfer.stepsLeft =
          (g.transfers[i]?.map Transfer.stepsLeft).map (· - if place = i then 1 else 0) := by
        rw [List.getElem?_modify]
        by_cases hi : place = i <;>
          simp [hi, Functor.map, Function.comp_def, Transfer.stepsLeft_advance]
      rw [hstep, h.stepsLeft i, Option.map_map, List.count_append, List.count_singleton]
      simp only [Function.comp_def, Nat.sub_sub, beq_iff_eq]
    · rw [← h.outcomes]
      refine List.ext_getElem? fun i => ?_
      rw [List.getElem?_map, List.getElem?_map, List.getElem?_modify]
      by_cases hi : place = i <;>
        simp [hi, Functor.map, Function.comp_def, Transfer.outcome_advance]
    · rw [List.append_assoc]
      exact ((perm_aheadOf_modify g.transfers place).append_left g.requests).trans h.requests

/-- **Whatever the schedule**, every transfer takes the steps that it is given. -/
theorem isAfter_run (hu : Uninterrupted transfers) (schedule : List Nat) :
    IsAfter transfers schedule ((start transfers).run schedule) := by
  -- on the last step of the schedule, as the steps are taken from the left
  induction schedule using List.reverseRecOn with
  | nil => exact isAfter_start transfers
  | append_singleton schedule place ih =>
    rw [run, List.foldl_append]
    exact ih.advance hu place

/-- All transfers have settled exactly if each one has been given the steps that it had to take. -/
theorem forall_isSettled_run_iff (hu : Uninterrupted transfers) (schedule : List Nat) :
    (∀ t ∈ ((start transfers).run schedule).transfers, t.isSettled = true) ↔
      ∀ place t, transfers[place]? = some t → t.stepsLeft ≤ schedule.count place := by
  have hafter := isAfter_run hu schedule
  constructor
  · intro hsettled place t ht
    obtain ⟨u, hget, hsteps⟩ := hafter.exists_of_getElem?_eq_some ht
    have hzero := Transfer.isSettled_iff.mp (hsettled u (List.mem_of_getElem? hget))
    omega
  · intro hsteps u hmem
    obtain ⟨place, hget⟩ := List.mem_iff_getElem?.mp hmem
    have hplace := (hafter.stepsLeft place).symm
    rw [hget, Option.map_some, Option.map_eq_some_iff] at hplace
    obtain ⟨t, ht, heq⟩ := hplace
    have hle := hsteps place t ht
    exact Transfer.isSettled_iff.mpr (by omega)

/-- **When all transfers have settled**, the load comes to what they come to, and all requests have
been made. -/
theorem result?_run_of_isSettled (hu : Uninterrupted transfers)
    (h : ∀ t ∈ ((start transfers).run schedule).transfers, t.isSettled = true) :
    ((start transfers).run schedule).result? = some (collect (transfers.map Transfer.outcome)) ∧
      Perm ((start transfers).run schedule).requests (aheadOf transfers) := by
  have hafter := isAfter_run hu schedule
  refine ⟨?_, ?_⟩
  · rw [result?_eq (hu.of_map_outcome hafter.outcomes), hafter.outcomes,
      if_pos (List.all_eq_true.mpr h)]
  · have hnone : aheadOf ((start transfers).run schedule).transfers = [] :=
      List.flatMap_eq_nil_iff.mpr fun t ht => Transfer.ahead_of_isSettled (h t ht)
    simpa [hnone] using hafter.requests

end Gathering

/-! ### The schedule of the turns -/

namespace WebLoad

open Gathering

variable {web : Web} {redirections : Option Nat} {addresses : List Value}

/-- The turns of a load give every fetch the steps that it has to take. -/
theorem length_turns_le_count_scheduleOf {fetches : List Fetch} {place : Nat} {fetch : Fetch}
    (h : fetches[place]? = some fetch) :
    fetch.turns.length ≤ (scheduleOf fetches).count place := by
  have hmem : (fetch, place) ∈ fetches.zipIdx := List.mem_zipIdx_iff_getElem?.mpr h
  let steps (found : Fetch × Nat) : List (Nat × Nat) :=
    found.1.turns.map fun turn => (turn, found.2)
  have hsub : ((steps (fetch, place)).map Prod.snd).Sublist
      ((fetches.zipIdx.flatMap steps).map Prod.snd) := by
    rw [List.flatMap]
    exact (List.sublist_flatten_of_mem (List.mem_map_of_mem hmem)).map Prod.snd
  have hown : ((steps (fetch, place)).map Prod.snd).count place = fetch.turns.length := by
    simp [steps, Function.comp_def, List.map_const']
  -- the order of the turns does not count, only how many of them are the fetch's own
  have hperm :=
    (List.mergeSort_perm (fetches.zipIdx.flatMap steps) fun a b => a.1 ≤ b.1).map Prod.snd
  calc fetch.turns.length
      = ((steps (fetch, place)).map Prod.snd).count place := hown.symm
    _ ≤ ((fetches.zipIdx.flatMap steps).map Prod.snd).count place := hsub.count_le place
    _ = (scheduleOf fetches).count place := (hperm.count_eq place).symm

theorem stepsLeft_ofFetch (address : Value) (fetch : Fetch) :
    (Transfer.ofFetch address fetch).stepsLeft = fetch.turns.length := by
  simp [Transfer.ofFetch, Transfer.stepsLeft, Fetch.turns]

/-- The transfers of a load. -/
def transfersOf (web : Web) (redirections : Option Nat) (addresses : List Value) : List Transfer :=
  addresses.map fun address => .ofFetch address (.ofSource web redirections address)

/-- **A whole load** comes to what its transfers come to, and makes all of their requests. -/
theorem run_eq_collect (hu : Uninterrupted (transfersOf web redirections addresses)) :
    (run web redirections addresses).result =
        collect ((transfersOf web redirections addresses).map Transfer.outcome) ∧
      (run web redirections addresses).requests.Perm
        (aheadOf (transfersOf web redirections addresses)) := by
  have hrun : run web redirections addresses =
      conduct (transfersOf web redirections addresses)
        (scheduleOf (addresses.map (Fetch.ofSource web redirections))) := by
    simp [run, transfersOf, Function.comp_def]
  obtain ⟨hresult, hrequests⟩ := result?_run_of_isSettled hu
    ((forall_isSettled_run_iff hu _).mpr fun place t ht => by
      obtain ⟨address, haddress, rfl⟩ := Option.map_eq_some_iff.mp
        ((List.getElem?_map ..).symm.trans ht)
      rw [stepsLeft_ofFetch]
      exact length_turns_le_count_scheduleOf (by rw [List.getElem?_map, haddress, Option.map_some]))
  rw [hrun, conduct, hresult]
  exact ⟨rfl, hrequests⟩

end WebLoad

/-! ### What has to come of the replies -/

/-- A failure that **reports** what came of the request of an address: with the address, unless the
cause is an unexpected one. -/
def SourceFailure.Reports (f : SourceFailure) (address : Text) : ReplyOutcome → Prop
  | .response r =>
    r.isSuccess = false ∧ f.fault = .status r.status ∧ f.reportedSource? = some address ∧
      f.message = "Failed to fetch " ++ address ++ ": HTTP " ++ Text.ofNat r.status
  | .broken fault message =>
    f.fault = .transfer fault message ∧ f.reportedSource? = some address ∧
      f.message = "Failed to fetch " ++ address ++ ": " ++ message
  | .unexpected label message =>
    f.fault = .unexpected label message ∧ f.reportedSource? = none ∧
      f.message = "Failed to fetch API documentation: " ++ message
  | .interrupted => False

/-- The **verdict** on the replies to the requests of a load, in the order of the addresses: all
texts, or else a failure that reports the first reply that is not the document. -/
inductive Load.IsVerdict : Load → List (Text × ReplyOutcome) → Prop
  | texts (answers : List (Text × Response)) (hsuccess : ∀ a ∈ answers, a.2.isSuccess = true) :
      IsVerdict (.texts (answers.map fun a => a.2.text))
        (answers.map fun a => (a.1, .response a.2))
  | failed (before : List (Text × Response)) (hsuccess : ∀ a ∈ before, a.2.isSuccess = true)
      {failure : SourceFailure} {address : Text} {outcome : ReplyOutcome}
      (hreports : failure.Reports address outcome) (later : List (Text × ReplyOutcome)) :
      IsVerdict (.failed failure)
        ((before.map fun a => (a.1, .response a.2)) ++ (address, outcome) :: later)

namespace Gathering

open List (Perm Subperm)

variable {replies : List (Text × ReplyOutcome)}

/-- What is collected from the replies is the verdict on them. -/
theorem isVerdict_collect (hreplies : ∀ r ∈ replies, r.2 ≠ .interrupted) :
    (collect (replies.map fun r => (Transfer.ofReply r).outcome)).IsVerdict replies := by
  induction replies with
  | nil => exact .texts [] (by simp)
  | cons reply replies ih =>
    obtain ⟨address, outcome⟩ := reply
    obtain ⟨hreply, hrest⟩ := List.forall_mem_cons.mp hreplies
    have hfirst {failure : SourceFailure} (h : failure.Reports address outcome) :
        Load.IsVerdict (.failed failure) ((address, outcome) :: replies) := .failed [] (by simp) h _
    cases outcome with
    | broken fault message => exact hfirst ⟨rfl, rfl, rfl⟩
    | unexpected label message => exact hfirst ⟨rfl, rfl, rfl⟩
    | interrupted => exact absurd rfl hreply
    | response r =>
      cases hr : r.isSuccess with
      | false =>
        rw [List.map_cons, Transfer.outcome, Transfer.ofReply, Retrieval.ofOutcome,
          Retrieval.ofResponse, hr]
        exact hfirst ⟨hr, rfl, rfl, rfl⟩
      | true =>
        have hmore (before : List (Text × Response)) (hb : ∀ a ∈ before, a.2.isSuccess = true) :
            ∀ a ∈ (address, r) :: before, a.2.isSuccess = true := by simpa [hr] using hb
        rw [List.map_cons, Transfer.outcome, Transfer.ofReply, Retrieval.ofOutcome,
          Retrieval.ofResponse, hr, if_pos rfl, collect]
        generalize collect (replies.map fun r => (Transfer.ofReply r).outcome) = load at ih
        cases ih hrest with
        | texts answers hsuccess => exact .texts ((address, r) :: answers) (hmore answers hsuccess)
        | failed before hsuccess hreports later =>
          exact .failed ((address, r) :: before) (hmore before hsuccess) hreports later

/-- Replies that are no interruptions give transfers that meet none. -/
theorem uninterrupted_map_ofReply (hreplies : ∀ r ∈ replies, r.2 ≠ .interrupted) :
    Uninterrupted (replies.map Transfer.ofReply) :=
  List.forall_mem_map.mpr fun r hr => Transfer.result_ofReply_ne_interrupted (hreplies r hr)

theorem aheadOf_map_ofReply (replies : List (Text × ReplyOutcome)) :
    aheadOf (replies.map Transfer.ofReply) = replies.map Prod.fst := by
  rw [aheadOf, List.flatMap_map, List.map_eq_flatMap]
  rfl

/-- They have all settled exactly if each one has made its request and been given the answer. -/
theorem forall_isSettled_run_replies_iff (hreplies : ∀ r ∈ replies, r.2 ≠ .interrupted)
    (schedule : List Nat) :
    (∀ t ∈ ((start (replies.map Transfer.ofReply)).run schedule).transfers, t.isSettled = true) ↔
      ∀ place < replies.length, 2 ≤ schedule.count place := by
  rw [forall_isSettled_run_iff (uninterrupted_map_ofReply hreplies)]
  constructor
  · intro h place hplace
    exact h place (Transfer.ofReply replies[place]) (by simp [hplace])
  · intro h place t ht
    rw [List.getElem?_map, Option.map_eq_some_iff] at ht
    obtain ⟨r, hr, rfl⟩ := ht
    exact h place (List.getElem?_eq_some_iff.mp hr).1

/-- Where redirections are not followed, the transfers of a load are those of the replies. -/
theorem transfersOf_eq_map_ofReply {web : Web} (hweb : ∀ r ∈ replies, (web r.1).outcome = r.2) :
    WebLoad.transfersOf web none (replies.map fun r => .text r.1) =
      replies.map Transfer.ofReply := by
  rw [WebLoad.transfersOf, List.map_map]
  refine List.map_congr_left fun r hr => ?_
  simp [Fetch.ofSource, Fetch.follow, Fetch.stay, Transfer.ofFetch, Transfer.ofReply, hweb r hr]

/-- **A load does not depend on the order in which its requests are answered.** For any replies to
the requests of a load, none of them an interruption by the user, there is one load that every
schedule leads to. However the steps of the transfers follow one another, no address is asked for
more often than it is in the list. The transfers have all settled when each one has made its request
and been given the answer, and only then is the load over; it then comes to the verdict on the
replies, and every address has been asked for as often as it is in the list. The turns of a web that
gives these replies are such a schedule. -/
theorem exists_load_of_every_schedule (hreplies : ∀ r ∈ replies, r.2 ≠ .interrupted) :
    ∃ load : Load, load.IsVerdict replies ∧
      (∀ schedule : List Nat,
        let g := (start (replies.map Transfer.ofReply)).run schedule
        Subperm g.requests (replies.map Prod.fst) ∧
        ((∀ t ∈ g.transfers, t.isSettled = true) ↔
          ∀ place < replies.length, 2 ≤ schedule.count place) ∧
        (if ∀ t ∈ g.transfers, t.isSettled = true then
          g.result? = some load ∧ Perm g.requests (replies.map Prod.fst)
        else g.result? = none)) ∧
      ∀ web : Web, (∀ r ∈ replies, (web r.1).outcome = r.2) →
        let whole := WebLoad.run web none (replies.map fun r => .text r.1)
        whole.result = load ∧ Perm whole.requests (replies.map Prod.fst) := by
  have hu := uninterrupted_map_ofReply hreplies
  have hahead := aheadOf_map_ofReply replies
  have hcollect : collect ((replies.map Transfer.ofReply).map Transfer.outcome) =
      collect (replies.map fun r => (Transfer.ofReply r).outcome) := by
    rw [List.map_map, Function.comp_def]
  refine ⟨_, isVerdict_collect hreplies, fun schedule => ?_, fun web hweb => ?_⟩
  · have hafter := isAfter_run hu schedule
    refine ⟨?_, forall_isSettled_run_replies_iff hreplies schedule, ?_⟩
    · exact hahead ▸ (List.sublist_append_left ..).subperm.trans hafter.requests.subperm
    · split
      · rename_i hsettled
        obtain ⟨hresult, hrequests⟩ := result?_run_of_isSettled hu hsettled
        exact ⟨hresult.trans (congrArg some hcollect), hahead ▸ hrequests⟩
      · rename_i hsettled
        rw [result?_eq (hu.of_map_outcome hafter.outcomes), if_neg]
        rwa [List.all_eq_true]
  · have htransfers := transfersOf_eq_map_ofReply hweb
    obtain ⟨hresult, hrequests⟩ := WebLoad.run_eq_collect (htransfers ▸ hu)
    rw [htransfers] at hresult hrequests
    exact ⟨hresult.trans hcollect, hahead ▸ hrequests⟩

/-- One address twice, and between its transfers two that fail: every schedule that gives each of
the four its two steps leads to the same load. -/
theorem exists_load_of_every_schedule_of_repetition :
    ∃ load : Load, load.IsVerdict
        [("a", .response ⟨200, [], none, none⟩), ("b", .broken .connect "refused"),
          ("c", .unexpected "ValueError" "odd"), ("a", .response ⟨200, [], none, none⟩)] ∧
      ∀ schedule : List Nat, (∀ place < 4, 2 ≤ schedule.count place) →
        ((start [.ofReply ("a", .response ⟨200, [], none, none⟩),
          .ofReply ("b", .broken .connect "refused"),
          .ofReply ("c", .unexpected "ValueError" "odd"),
          .ofReply ("a", .response ⟨200, [], none, none⟩)]).run schedule).result? = some load := by
  obtain ⟨load, hverdict, hschedule, -⟩ := @exists_load_of_every_schedule
    [("a", .response ⟨200, [], none, none⟩), ("b", .broken .connect "refused"),
      ("c", .unexpected "ValueError" "odd"), ("a", .response ⟨200, [], none, none⟩)] (by decide)
  refine ⟨load, hverdict, fun schedule hsteps => ?_⟩
  obtain ⟨-, hsettled, hresult⟩ := hschedule schedule
  rw [if_pos (hsettled.mpr hsteps)] at hresult
  exact hresult.1

end Gathering

end NativeFinder
