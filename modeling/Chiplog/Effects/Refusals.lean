import Chiplog.Effects.Application

namespace Chiplog.Effects

open Chiplog.Data

/-! Refusals of the owner.

All checks made before a record is bound refuse with a rule violation of their own.
Only binding an obligation can fail a model validation or miss a crossed lineage. -/

/-- A failure that does not come from binding an obligation. -/
def IsRefusal : EffectFailure → Prop
  | .violation _ reason => reason ≠ "unknown outcome lacks original crossed lineage"
  | .validation _ => False

abbrev Refuses (computation : Checked α) : Prop := Raises IsRefusal computation

theorem deny_refuses {condition : Prop} [Decidable condition] {code : ViolationCode}
    {reason : String} (other : reason ≠ "unknown outcome lacks original crossed lineage") :
    Refuses (deny condition code reason) :=
  .raiseIf other

theorem violation_refuses {code : ViolationCode} {reason : String}
    (other : reason ≠ "unknown outcome lacks original crossed lineage") :
    Refuses (.error (.violation code reason) : Checked α) :=
  .error other

theorem requireSemantics_refuses (actual : DispatchSemanticBinding)
    (supported : Option DispatchSemanticBinding) (durable : Bool) :
    Refuses (requireSemantics actual supported durable) :=
  deny_refuses (by decide)

theorem requireTransition_refuses (prior proposed : AttemptState) (writer : Writer)
    (newChild : Bool) : Refuses (requireTransition prior proposed writer newChild) := by
  refine (deny_refuses (by decide)).bind (fun _ _ => ?_)
  split
  · exact deny_refuses (by decide)
  · refine (deny_refuses (by decide)).bind (fun _ _ => ?_)
    split
    · exact (deny_refuses (by decide)).bind (fun _ _ => deny_refuses (by decide))
    · exact deny_refuses (by decide)

theorem observe_refuses (childRefs members : List ExactHead)
    (observations : List ChildMemberEvidence) (evidenceIds : Dict Identity ExactHead)
    (observed : Observed) :
    Refuses (observe childRefs members observations evidenceIds observed) := by
  induction observations generalizing evidenceIds observed with
  | nil => exact .ok _
  | cons row rest ih =>
      refine (deny_refuses (by decide)).bind (fun _ _ => ?_)
      exact (deny_refuses (by decide)).bind (fun _ _ => ih _ _)

theorem reduceChildEvidence_refuses (prior : AttemptState) (children : List TransmissionAttempt)
    (members : List ExactHead) (observations : List ChildMemberEvidence) :
    Refuses (reduceChildEvidence prior children members observations) := by
  iterate 5 refine (deny_refuses (by decide)).bind (fun _ _ => ?_)
  exact (observe_refuses _ _ _ _ _).bind (fun _ _ => .ok _)

theorem requireFreshRecoveryOriginals_refuses (intent : ExternalActionIntent)
    (originals : List ExactHead) : Refuses (requireFreshRecoveryOriginals intent originals) :=
  (deny_refuses (by decide)).bind (fun _ _ => deny_refuses (by decide))

theorem collectBlockers_refuses (byHead : Dict ExactHead EffectSnapshot) (heads : List ExactHead)
    (blockers : Dict ExactHead EffectSnapshot) :
    Refuses (collectBlockers byHead heads blockers) := by
  induction heads generalizing blockers with
  | nil => exact .ok _
  | cons head rest ih =>
      unfold collectBlockers
      split
      · exact violation_refuses (by decide)
      · exact (deny_refuses (by decide)).bind (fun _ _ => ih _)

theorem matchOriginals_refuses (intent : ExternalActionIntent) (originals : List OriginalAmbiguity)
    (snapshots : List EffectSnapshot) (matched : List OriginalAmbiguity) :
    Refuses (matchOriginals intent originals snapshots matched) := by
  induction snapshots generalizing matched with
  | nil => exact .ok _
  | cons snapshot rest ih =>
      unfold matchOriginals
      split
      · exact ih _
      · split
        · exact ih _
        · exact violation_refuses (by decide)

theorem requireNoReplacement_refuses (intent : ExternalActionIntent) (store : EffectStoreSnapshot)
    (current : CurrentEffectInputs) : Refuses (requireNoReplacement intent store current) := by
  refine (deny_refuses (by decide)).bind (fun _ _ => ?_)
  refine (collectBlockers_refuses _ _ _).bind (fun _ _ => ?_)
  refine (Raises.checkIf (requireFreshRecoveryOriginals_refuses _ _)).bind (fun _ _ => ?_)
  exact (matchOriginals_refuses _ _ _ _).bind (fun _ _ => deny_refuses (by decide))

theorem addressed_refuses (command : EffectCommand) (store : EffectStoreSnapshot) :
    Refuses (addressed command store) := by
  cases command with
  | recordEvidence command =>
      simp only [addressed]
      split
      · exact .ok _
      · exact violation_refuses (by decide)
  | commitSend | authorize | beforeSend | reconcile => exact .ok _
  | accept | publishPlan | publishDelivery | publishRecovery => exact violation_refuses (by decide)

theorem previousRecord_refuses (command : EffectCommand) (store : EffectStoreSnapshot) :
    Refuses (previousRecord command store) := by
  refine (addressed_refuses _ _).bind (fun ⟨_, _, _⟩ _ => ?_)
  simp only
  split
  · exact violation_refuses (by decide)
  · refine (deny_refuses (by decide)).bind (fun _ _ => ?_)
    exact (deny_refuses (by decide)).bind (fun _ _ => .ok _)

theorem collectObservations_refuses [Hashlib] (children members : List ExactHead)
    (events : List RecordEvidenceCommand) :
    Refuses (collectObservations children members events) := by
  induction events with
  | nil => exact .ok _
  | cons event rest ih =>
      exact (deny_refuses (by decide)).bind (fun _ _ => ih.bind (fun _ _ => .ok _))

theorem deniedRecord_refuses (command : BeforeSendDispositionV2Command)
    (store : EffectStoreSnapshot) : Refuses (deniedRecord command store) := by
  refine (deny_refuses (by decide)).bind (fun _ _ => ?_)
  refine (deny_refuses (by decide)).bind (fun _ _ => ?_)
  split
  · exact violation_refuses (by decide)
  · exact .ok _

theorem requireRetirement_refuses (command : BeforeSendDispositionV2Command)
    (snapshot : EffectSnapshot) : Refuses (requireRetirement command snapshot) := by
  unfold requireRetirement
  split
  · exact deny_refuses (by decide)
  · exact deny_refuses (by decide)

theorem requireSameCut_refuses (command : BeforeSendDispositionV2Command)
    (store : EffectStoreSnapshot) (current : CurrentDenialInputs) :
    Refuses (requireSameCut command store current) :=
  deny_refuses (by decide)

theorem requireLiveLeases_refuses (authority : DenyingAuthority) (current : CurrentDenialInputs) :
    Refuses (requireLiveLeases authority current) :=
  (deny_refuses (by decide)).bind
    (fun _ _ => .forEach (fun _ => deny_refuses (by decide)) _)

theorem disposeBeforeSend_refuses (command : BeforeSendDispositionCommand)
    (snapshot : EffectSnapshot) (current : CurrentEffectInputs) :
    Refuses (disposeBeforeSend command snapshot current) :=
  (deny_refuses (by decide)).bind
    (fun _ _ => (requireTransition_refuses _ _ _ _).bind (fun _ _ => .ok _))

theorem acceptSpecific_refuses (command : AcceptEffectCommand) (current : CurrentEffectInputs) :
    Refuses (acceptSpecific command current) :=
  (deny_refuses (by decide)).bind (fun _ _ => .ok _)

theorem deliverySpecific_refuses (command : PublishDeliveryIntentCommand) :
    Refuses (deliverySpecific command) :=
  (deny_refuses (by decide)).bind (fun _ _ => .ok _)

theorem recoverySpecific_refuses (command : PublishRecoveryIntentCommand)
    (current : CurrentEffectInputs) : Refuses (recoverySpecific command current) := by
  refine (requireFreshRecoveryOriginals_refuses _ _).bind (fun _ _ => ?_)
  exact (deny_refuses (by decide)).bind (fun _ _ => .ok _)

section Refusals

variable [Hashlib]

theorem requireCurrentAuthority_refuses (intent : ExternalActionIntent)
    (current : AuthorityBinding) (nowNs : Nat) :
    Refuses (requireCurrentAuthority intent current nowNs) := by
  refine (deny_refuses (by decide)).bind (fun _ _ => ?_)
  exact (deny_refuses (by decide)).bind (fun _ _ => deny_refuses (by decide))

theorem requireSafeRetransmission_refuses (state : AttemptState) (intent : ExternalActionIntent)
    (children : List TransmissionAttempt) (request : SafeRetransmission)
    (proof : Option SafeRetransmission) (authority : AuthorityBinding)
    (supported : Option DispatchSemanticBinding) (nowNs : Nat) :
    Refuses (requireSafeRetransmission state intent children request proof authority supported
      nowNs) := by
  refine (requireTransition_refuses _ _ _ _).bind (fun _ _ => ?_)
  refine (requireSemantics_refuses _ _ _).bind (fun _ _ => ?_)
  refine (requireCurrentAuthority_refuses _ _ _).bind (fun _ _ => ?_)
  iterate 4 refine (deny_refuses (by decide)).bind (fun _ _ => ?_)
  exact (deny_refuses (by decide)).bind (fun _ _ => deny_refuses (by decide))

theorem initial_refuses (intent : ExternalActionIntent) : Refuses (initial intent) :=
  (deny_refuses (by decide)).bind (fun _ _ => (deny_refuses (by decide)).bind (fun _ _ => .ok _))

theorem evidenceState_refuses (snapshot : EffectSnapshot) : Refuses (evidenceState snapshot) :=
  (collectObservations_refuses _ _ _).bind (fun _ _ => reduceChildEvidence_refuses _ _ _ _)

theorem authorizeDispatch_refuses (command : AuthorizeDispatchCommand) (snapshot : EffectSnapshot)
    (current : CurrentEffectInputs) : Refuses (authorizeDispatch command snapshot current) := by
  refine (requireSemantics_refuses _ _ _).bind (fun _ _ => ?_)
  refine (requireSemantics_refuses _ _ _).bind (fun _ _ => ?_)
  refine (requireCurrentAuthority_refuses _ _ _).bind (fun _ _ => ?_)
  refine (deny_refuses (by decide)).bind (fun _ _ => ?_)
  exact (requireTransition_refuses _ _ _ _).bind (fun _ _ => .ok _)

theorem admitTransmission_refuses (command : CommitSendCommand) (snapshot : EffectSnapshot)
    (current : CurrentEffectInputs) : Refuses (admitTransmission command snapshot current) := by
  unfold admitTransmission
  split
  · refine (deny_refuses (by decide)).bind (fun _ _ => ?_)
    refine (deny_refuses (by decide)).bind (fun _ _ => ?_)
    exact (requireTransition_refuses _ _ _ _).bind (fun _ _ => .ok _)
  · exact (requireSafeRetransmission_refuses _ _ _ _ _ _ _ _).bind (fun _ _ => .ok _)

theorem commitSend_refuses (command : CommitSendCommand) (snapshot : EffectSnapshot)
    (current : CurrentEffectInputs) : Refuses (commitSend command snapshot current) := by
  refine (deny_refuses (by decide)).bind (fun _ _ => ?_)
  refine (deny_refuses (by decide)).bind (fun _ _ => ?_)
  refine (requireSemantics_refuses _ _ _).bind (fun _ _ => ?_)
  refine (requireSemantics_refuses _ _ _).bind (fun _ _ => ?_)
  refine (requireCurrentAuthority_refuses _ _ _).bind (fun _ _ => ?_)
  refine (Raises.checkIf (requireFreshRecoveryOriginals_refuses _ _)).bind (fun _ _ => ?_)
  exact (admitTransmission_refuses _ _ _).bind (fun _ _ => .ok _)

theorem reduceEvidence_refuses (command : RecordEvidenceCommand) (snapshot : EffectSnapshot)
    (current : CurrentEffectInputs) : Refuses (reduceEvidence command snapshot current) := by
  unfold reduceEvidence
  split
  · refine Raises.bind ?_ (fun _ _ => ?_)
    · unfold reducedState
      split
      · exact .ok _
      · exact evidenceState_refuses _
    · exact (Raises.checkIf (requireTransition_refuses _ _ _ _)).bind (fun _ _ => .ok _)
  · exact .ok _

theorem recordEvidence_refuses (command : RecordEvidenceCommand) (store : EffectStoreSnapshot)
    (snapshot : EffectSnapshot) (current : CurrentEffectInputs) :
    Refuses (recordEvidence command store snapshot current) := by
  iterate 6 refine (deny_refuses (by decide)).bind (fun _ _ => ?_)
  exact (reduceEvidence_refuses _ _ _).bind (fun _ _ => .ok _)

theorem reconcileEffect_refuses (command : ReconcileEffectCommand) (snapshot : EffectSnapshot)
    (current : CurrentEffectInputs) : Refuses (reconcileEffect command snapshot current) := by
  refine (deny_refuses (by decide)).bind (fun _ _ => ?_)
  refine (requireSemantics_refuses _ _ _).bind (fun _ _ => ?_)
  refine (requireSemantics_refuses _ _ _).bind (fun _ _ => ?_)
  refine (evidenceState_refuses _).bind (fun _ _ => ?_)
  exact (Raises.checkIf (requireTransition_refuses _ _ _ _)).bind (fun _ _ => .ok _)

theorem advance_refuses (command : EffectCommand) (store : EffectStoreSnapshot)
    (snapshot : EffectSnapshot) (current : CurrentEffectInputs) :
    Refuses (advance command store snapshot current) := by
  cases command with
  | authorize command =>
      exact (requireNoReplacement_refuses _ _ _).bind (fun _ _ => authorizeDispatch_refuses _ _ _)
  | commitSend command =>
      exact (requireNoReplacement_refuses _ _ _).bind (fun _ _ => commitSend_refuses _ _ _)
  | beforeSend command => exact disposeBeforeSend_refuses _ _ _
  | recordEvidence command => exact recordEvidence_refuses _ _ _ _
  | reconcile command => exact reconcileEffect_refuses _ _ _
  | accept | publishPlan | publishDelivery | publishRecovery => exact violation_refuses (by decide)

end Refusals

end Chiplog.Effects
