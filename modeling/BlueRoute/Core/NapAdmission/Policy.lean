import BlueRoute.Core.Capability
import BlueRoute.Core.Id

open Fallible

namespace blueroute

/-- The counts are the source's `u16` values. -/
structure NapAdmissionDecision where
  candidate : NodeId
  already_attached : Bool
  connected_before : Nat
  remaining_after : Nat
  policy_ceiling : Sourced UInt16
deriving DecidableEq

namespace nap_admission

def invalid (message : String) : CoreError := .new .InvalidInput message

def unavailable (message : String) : CoreError := .new .CapabilityUnavailable message

def valid_id (node : NodeId) : Bool := node.as_bytes.toList.any (· != 0)

/-- One turn of the loop over the observed attachments. -/
def observe_client (seen : Finset NodeId) (node : NodeId) : Result (Finset NodeId) := do
  reject_if (valid_id node = false ∨ node ∈ seen) (invalid "invalid or duplicate active PANU identity")
  .ok (insert node seen)

/-- Evaluate one candidate against a conservative, explicitly sourced NAP
ceiling. A full star allows an idempotent already-attached candidate but never
a new one. -/
def plan_nap_client_admission (host : NodeCapabilities) (active_clients : List NodeId) (candidate : NodeId) :
    Result NapAdmissionDecision := do
  reject_if (valid_id candidate = false) (invalid "NAP admission requires a nonzero candidate identity")
  reject_if (host.usable ≠ some true ∨ host.can_host_pan ≠ some true)
    (unavailable "local adapter or NAP capability is unavailable")
  let policy_ceiling ← ok_or host.connection_policy_ceiling (unavailable "NAP client ceiling is unknown")
  reject_if (policy_ceiling.value = 0) (invalid "NAP client ceiling must be positive")
  let seen ← active_clients.foldlM observe_client ∅
  reject_if (2 ^ 16 ≤ seen.card) (invalid "observed PANU count exceeds supported range")
  reject_if (policy_ceiling.value.toNat < seen.card)
    (.new .InvalidState "observed PANU count exceeds local policy ceiling")
  reject_if (candidate ∉ seen ∧ seen.card = policy_ceiling.value.toNat)
    (unavailable "local NAP client ceiling reached")
  let connected_after := seen.card + if candidate ∈ seen then 0 else 1
  .ok
    { candidate
      already_attached := decide (candidate ∈ seen)
      connected_before := seen.card
      remaining_after := policy_ceiling.value.toNat - connected_after
      policy_ceiling }

theorem foldlM_observe_client {nodes : List NodeId} {before seen : Finset NodeId}
    (h : nodes.foldlM observe_client before = .ok seen) :
    seen = before ∪ nodes.toFinset ∧ seen.card = before.card + nodes.length := by
  induction nodes generalizing before with
  | nil =>
    cases h
    simp
  | cons node rest ih =>
    obtain ⟨middle, hmiddle, hrest⟩ := foldlM_cons_eq_ok_iff.mp h
    simp only [observe_client, bind_eq_ok_iff, reject_if_eq_ok, not_or, Except.ok.injEq] at hmiddle
    obtain ⟨_, ⟨_, hfresh⟩, rfl⟩ := hmiddle
    obtain ⟨rfl, hcard⟩ := ih hrest
    rw [Finset.card_insert_of_notMem hfresh] at hcard
    refine ⟨by ext; simp, ?_⟩
    rw [hcard, List.length_cons]
    omega

/-- An accepted candidate fits under the ceiling, together with everything
that was observed. -/
theorem plan_nap_client_admission_fits {host : NodeCapabilities} {active_clients : List NodeId}
    {candidate : NodeId} {decision : NapAdmissionDecision}
    (h : plan_nap_client_admission host active_clients candidate = .ok decision) :
    ∃ ceiling, host.ceiling = some ceiling ∧ active_clients.length ≤ ceiling ∧
      (candidate ∉ active_clients → active_clients.length < ceiling) := by
  simp only [plan_nap_client_admission, bind_eq_ok_iff, reject_if_eq_ok, ok_or_eq_ok, not_and] at h
  obtain ⟨_, _, _, _, ceiling, hceiling, _, _, seen, hseen, _, _, _, hbelow, _, hroom, _⟩ := h
  obtain ⟨rfl, hcard⟩ := foldlM_observe_client hseen
  simp only [Finset.card_empty, Nat.zero_add] at hcard
  rw [hcard] at hbelow hroom
  refine ⟨ceiling.value.toNat, by rw [NodeCapabilities.ceiling, hceiling]; rfl, by omega, fun hnew => ?_⟩
  have hne := hroom (by simpa using hnew)
  omega

end nap_admission

end blueroute
