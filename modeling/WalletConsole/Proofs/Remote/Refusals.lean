import Mathlib
import WalletConsole.Proofs.Wallet.Refusal
import WalletConsole.Proofs.Remote.SingleDelete
import WalletConsole.Session.Listed

/-!
# Why a call was refused

A call that is answered by a status other than of success fails with this status and a reason. The
reason is the one that the body says, else the body itself, else the usual words for the status.

* `reasonOf_of_saidIn`, `reasonOf_of_silent` — where the reason comes from
* `isBlank_reasonOf_iff` — **a reason is blank only if the backend gave a blank one**
* `refused_calls_give_reasons` — **every call that is refused**
* `blank_reason_passed_on` — a blank reason that is shown to the user
-/

namespace WalletConsole.Remote

open Json Text

/-! ## Reasons -/

/-- A body does not say why. -/
def Silent (body : String) : Prop := ∀ e : Refusal, ¬ e.SaidIn body

section

variable {status : UInt16} {body : String}

theorem reasonOf_of_saidIn {e : Refusal} (h : e.SaidIn body) : reasonOf status body = e.reason := by
  unfold reasonOf
  rw [Refusal.read_eq_ok_iff.mpr h]

theorem reasonOf_of_silent (h : Silent body) : reasonOf status body =
    if trimmed body = "" then (canonicalReason? status).getD "Unknown error" else trimmed body := by
  unfold reasonOf
  cases hread : (Wire.read body : Except _ Refusal) with
  | ok e => exact absurd (Refusal.read_eq_ok_iff.mp hread) (h e)
  | error _ => simp only [String.isEmpty_iff]

theorem not_isBlank_of_mem_canonicalReasons {words : String}
    (h : (status, words) ∈ canonicalReasons) : ¬ IsBlank words := by
  have hall : canonicalReasons.all (fun r => r.2.toList.any fun c => !isBlank c) = true := by decide
  obtain ⟨c, hc, hnot⟩ := List.any_eq_true.mp (List.all_eq_true.mp hall _ h)
  intro hblank
  rw [hblank c hc] at hnot
  cases hnot

/-- There are words for every status, and they are not blank. -/
theorem not_isBlank_usualWords (status : UInt16) :
    ¬ IsBlank ((canonicalReason? status).getD "Unknown error") := by
  cases hreason : canonicalReason? status with
  | none =>
    intro hblank
    exact absurd (hblank 'U' (by decide)) (by decide)
  | some words =>
    obtain ⟨before, after, hwords, -⟩ := List.lookup_eq_some_iff.mp hreason
    have hmem : (status, words) ∈ canonicalReasons := by
      rw [hwords]
      simp
    exact not_isBlank_of_mem_canonicalReasons hmem

/-- **A reason is blank only if the backend gave a blank one.** -/
theorem isBlank_reasonOf_iff :
    IsBlank (reasonOf status body) ↔ ∃ e : Refusal, e.SaidIn body ∧ IsBlank e.reason := by
  by_cases hsaid : ∃ e : Refusal, e.SaidIn body
  · obtain ⟨e, he⟩ := hsaid
    rw [reasonOf_of_saidIn he]
    constructor
    · intro hblank
      exact ⟨e, he, hblank⟩
    · rintro ⟨e', he', hblank⟩
      rwa [he.eq he']
  · have hsilent : Silent body := not_exists.mp hsaid
    rw [reasonOf_of_silent hsilent]
    refine iff_of_false ?_ fun ⟨e, he, _⟩ => hsilent e he
    by_cases hblank : trimmed body = ""
    · rw [if_pos hblank]
      exact not_isBlank_usualWords status
    · rw [if_neg hblank, isBlank_trimmed_iff, ← trimmed_eq_empty_iff]
      exact hblank

end

/-! ## Calls -/

/-- What the body of a response says, as far as it arrived. -/
def Response.text (r : Response) : String := (r.body.map lossy).getD ""

/-- Why a call was refused, by a response with this status and this body. -/
structure Explains (status : UInt16) (body reason : String) : Prop where
  /-- the body says why -/
  said : ∀ e : Refusal, e.SaidIn body → reason = e.reason
  /-- else the body itself is the reason, without the blanks around it -/
  silent : Silent body → ¬ IsBlank body → reason = trimmed body
  /-- else the usual words are -/
  nothing : IsBlank body → reason = (canonicalReason? status).getD "Unknown error"
  /-- a reason that was not given is there to be read -/
  blank_iff : IsBlank reason ↔ ∃ e : Refusal, e.SaidIn body ∧ IsBlank e.reason

theorem explains_reasonOf (status : UInt16) (body : String) :
    Explains status body (reasonOf status body) where
  said _ he := reasonOf_of_saidIn he
  silent hsilent hblank := by
    rw [reasonOf_of_silent hsilent, if_neg (mt trimmed_eq_empty_iff.mp hblank)]
  nothing hblank := by
    rw [reasonOf_of_silent (Refusal.not_saidIn_of_isBlank hblank),
      if_pos (trimmed_eq_empty_iff.mpr hblank)]
  blank_iff := isBlank_reasonOf_iff

theorem isSuccess_eq_false_iff {status : UInt16} :
    isSuccess status = false ↔ status < 200 ∨ 299 < status := by
  rw [isSuccess, Bool.and_eq_false_iff, decide_eq_false_iff_not, decide_eq_false_iff_not,
    UInt16.not_le, UInt16.not_le]

/-- A call that is refused fails with the status of the response and the reason for it. -/
theorem run_of_refused {exchange : Exchange} {c : Client} {call : WalletCall} {request : Request}
    {response : Response} (hsent : c.request? call = some request)
    (hanswer : exchange request = some response)
    (hrefused : response.status < 200 ∨ 299 < response.status) :
    c.run exchange call =
      (.error (.refused response.status (reasonOf response.status response.text)), [request]) := by
  have hread : readResponse call response =
      .error (.refused response.status (reasonOf response.status response.text)) := by
    rw [readResponse, isSuccess_eq_false_iff.mpr hrefused]
    rfl
  unfold Client.run
  simp only [hsent, hanswer, hread]

/--
**A call that is refused fails with the status of the response and a reason**, in which the messages
for the user end. The reason is there to be read unless the backend gave a blank one.
-/
theorem refused_calls_give_reasons (exchange : Exchange) (c : Client) (call : WalletCall)
    (request : Request) (response : Response) (hsent : c.request? call = some request)
    (hanswer : exchange request = some response)
    (hrefused : response.status < 200 ∨ 299 < response.status) :
    ∃ reason, c.run exchange call = (.error (.refused response.status reason), [request]) ∧
      Explains response.status response.text reason ∧
      ∀ w : Wording,
        w.rowFailed (.refused response.status reason) =
          "Failed to " ++ w.verb ++ " " ++ w.singular ++ ": " ++ reason ∧
        w.rowsFailed (.refused response.status reason) =
          "Failed to " ++ w.verb ++ " " ++ w.plural ++ ": " ++ reason :=
  ⟨_, run_of_refused hsent hanswer hrefused, explains_reasonOf _ _, fun _ => ⟨rfl, rfl⟩⟩

/-- A response whose body is a text. -/
def Response.ofText (status : UInt16) (s : String) : Response := ⟨status, some (utf8Bytes s.toList)⟩

theorem Response.text_ofText (status : UInt16) (s : String) : (ofText status s).text = s := by
  show lossy (utf8Bytes s.toList) = s
  rw [lossy_utf8Bytes, String.ofList_toList]

/-- What is asked for when the invoices on the same machine are listed. -/
def localInvoices : Request :=
  ⟨.get, ⟨"http", "localhost:3000".toList, ["v1".toList, "invoices".toList], none⟩, none⟩

/-- A status that is not registered, and a body of blanks, one of them an ideographic space. -/
theorem unregistered_refusal_explained :
    localClient.request? (.list .invoices) = some localInvoices ∧
      ((599 : UInt16) < 200 ∨ 299 < (599 : UInt16)) ∧
      localClient.run (fun _ => some (.ofText 599 " \n\u3000")) (.list .invoices) =
        (.error (.refused 599 "Unknown error"), [localInvoices]) := by
  have hsent : localClient.request? (.list .invoices) = some localInvoices := by decide
  have hrefused : (599 : UInt16) < 200 ∨ 299 < (599 : UInt16) := by decide
  have hblank : IsBlank " \n\u3000" := by
    have hall : " \n\u3000".toList.all isBlank = true := by decide
    exact fun c hc => List.all_eq_true.mp hall c hc
  obtain ⟨reason, hrun, hwhy, -⟩ := refused_calls_give_reasons
    (fun _ => some (.ofText 599 " \n\u3000")) localClient (.list .invoices) localInvoices _ hsent
    rfl hrefused
  rw [Response.text_ofText] at hwhy
  have hreason : reason = "Unknown error" := hwhy.nothing hblank
  exact ⟨hsent, hrefused, hreason ▸ hrun⟩

/-- **A blank reason is passed on**: the message for the user ends where the reason should stand. -/
theorem blank_reason_passed_on :
    (localClient.run (fun _ => some (.ofText 503
      "\x7b\"status\":\"503\",\"reason\":\"\"\x7d")) (.deleteOne .invoices "i1")).1 =
        .error (.refused 503 "") ∧
      IsBlank "" ∧
      (Listed.wording Invoice).rowFailed (.refused 503 "") = "Failed to delete invoice: " := by
  have hwritten : Wire.write (⟨"503", ""⟩ : Refusal) =
      "\x7b\"status\":\"503\",\"reason\":\"\"\x7d" := by rfl
  have hsent : localClient.request? (.deleteOne .invoices "i1") =
      some ⟨.delete, Url.ofRow localBase .invoices "i1", none⟩ := by decide
  have hreason : reasonOf 503 (Wire.write (⟨"503", ""⟩ : Refusal)) = "" :=
    reasonOf_of_saidIn (Refusal.saidIn_write _)
  refine ⟨?_, ?_, rfl⟩
  · rw [run_of_refused hsent rfl (by decide), Response.text_ofText, ← hwritten]
    show Except.error (FetchError.refused 503 (reasonOf 503 _)) = _
    rw [hreason]
  · intro c hc
    cases hc

end WalletConsole.Remote
