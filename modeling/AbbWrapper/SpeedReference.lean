import AbbWrapper.Evaluation

/-! # Velocity references of a reply

The message object from which the replies are serialised outlives callbacks and sessions.  The
speed reference is written only while velocity outputs are wanted, and it is never cleared: a
configuration without velocity outputs that becomes active after a speed reference has been
written keeps sending the last one.

* `switches` tells whether a datagram makes a pending configuration active, and `SwitchesCleanly` says
  that if it is one without velocity outputs, then no speed reference has been written before.
* `Speedless` is the invariant: without velocity outputs there is no speed reference, in the message object
  and in the reply.

`no_speedRef_without_velocity_outputs` is about every interface and every number of sessions;
`speedRef_of_earlier_session` shows what is sent otherwise. -/

namespace AbbWrapper

open Protobuf Runs

variable {α β κ μ υ : Type}

namespace OutputContainer

variable [Field α]

theorem constructJointBody_speedRef (o : OutputContainer α) (configuration : BaseConfiguration α)
    (h : configuration.useVelocityOutputs = false) :
    (o.constructJointBody configuration).2.egmSensor.speedRef = o.egmSensor.speedRef := by
  simp only [constructJointBody, h, Bool.false_and, Bool.false_eq_true, if_false]
  split <;> rfl

theorem constructCartesianBody_speedRef (o : OutputContainer α)
    (configuration : BaseConfiguration α) (h : configuration.useVelocityOutputs = false) :
    (o.constructCartesianBody configuration).2.egmSensor.speedRef = o.egmSensor.speedRef := by
  simp only [constructCartesianBody, h, Bool.false_and, Bool.false_eq_true, if_false]
  split <;> rfl

/-- Without velocity outputs, a reply keeps the speed reference of the message object. -/
theorem constructReply_speedRef (o : OutputContainer α) (configuration : BaseConfiguration α)
    (h : configuration.useVelocityOutputs = false) :
    (o.constructReply configuration).egmSensor.speedRef = o.egmSensor.speedRef := by
  have hjoints := o.constructHeader.constructJointBody_speedRef configuration h
  have hcartesian :=
    (o.constructHeader.constructJointBody configuration).2.constructCartesianBody_speedRef
      configuration h
  unfold constructReply
  simp only
  split_ifs
  · exact hcartesian.trans hjoints
  · exact hcartesian.trans hjoints
  · exact hjoints

omit [Field α] in
theorem serializeToString_eq_some {m reply : EgmSensor α} (h : m.serializeToString = some reply) :
    reply = m := by
  unfold EgmSensor.serializeToString at h
  split at h
  · exact (Option.some.inj h).symm
  · cases h

/-- A reply is the message object as it has been constructed. -/
theorem constructReply_reply {o : OutputContainer α} {configuration : BaseConfiguration α}
    {reply : EgmSensor α} (h : (o.constructReply configuration).reply = some reply) :
    reply = (o.constructReply configuration).egmSensor := by
  unfold constructReply at h ⊢
  simp only at h ⊢
  split_ifs at h ⊢
  exact serializeToString_eq_some h

end OutputContainer

namespace EGMInterface

variable [Field α] [LinearOrder α] [Cmath α] [FloorRing α]
  (h : Handler κ μ υ α) (ParseFromArray : β → Bool × EgmRobot α)

omit [Field α] [LinearOrder α] [Cmath α] [FloorRing α] in
theorem updateConfiguration_frame (s : EGMInterface κ μ α) :
    (s.updateConfiguration h).inputs = s.inputs ∧
      (s.updateConfiguration h).outputs = s.outputs := by
  unfold updateConfiguration
  split <;> exact ⟨rfl, rfl⟩

/-! ### What a callback does to the message object -/

/-- Whether a datagram makes a pending configuration active. -/
def switches (s : EGMInterface κ μ α) (data : Option β) : Bool :=
  (s.inputs.parseFromArray ParseFromArray data).1 &&
    (s.inputs.parseFromArray ParseFromArray data).2.firstMessage &&
    s.configuration.hasPendingUpdate

theorem initializeCallback_configuration (s : EGMInterface κ μ α) (data : Option β) :
    (s.initializeCallback h ParseFromArray data).2.configuration =
      if s.switches ParseFromArray data then
        ⟨s.configuration.update, s.configuration.update, false⟩
      else s.configuration := by
  unfold initializeCallback switches
  cases data with
  | none => simp [InputContainer.parseFromArray]
  | some bytes =>
      cases hparsed : (s.inputs.parseFromArray ParseFromArray (some bytes)).1 with
      | false => simp [hparsed]
      | true =>
          simp only [hparsed, if_true, extract, updateConfiguration, Bool.true_and]
          split_ifs <;> simp_all

theorem initializeCallback_outputs (s : EGMInterface κ μ α) (data : Option β) :
    (s.initializeCallback h ParseFromArray data).2.outputs.egmSensor = s.outputs.egmSensor ∧
      (s.initializeCallback h ParseFromArray data).2.outputs.reply = none := by
  have hprepare (o : OutputContainer α) (i : InputContainer α) :
      (o.prepareOutputs i).egmSensor = o.egmSensor ∧ (o.prepareOutputs i).reply = o.reply := by
    unfold OutputContainer.prepareOutputs
    simp only
    split <;> exact ⟨rfl, rfl⟩
  have hextract (s : EGMInterface κ μ α) : (s.extract h).2.outputs = s.outputs :=
    (updateConfiguration_frame h s).2
  unfold initializeCallback
  cases data with
  | none => simp [OutputContainer.clearReply]
  | some bytes =>
      simp only
      split_ifs <;> simp_all [OutputContainer.clearReply]

theorem execute_frame (s : EGMInterface κ μ α) (mid : List υ) :
    (s.execute h mid).configuration = s.configuration ∧
      (s.execute h mid).outputs.egmSensor = s.outputs.egmSensor := by
  unfold execute
  simp only
  split <;> exact ⟨rfl, rfl⟩

/-! ### Runs -/

/-- The active configuration wants no velocity outputs. -/
def withoutVelocityOutputs (s : EGMInterface κ μ α) : Prop :=
  (h.base s.configuration.active).useVelocityOutputs = false

/-- A configuration without velocity outputs becomes active only while the message object carries
no speed reference. -/
def SwitchesCleanly (s : EGMInterface κ μ α) : Event κ υ β → Prop
  | .datagram data _ => s.switches ParseFromArray data = true →
      (h.base s.configuration.update).useVelocityOutputs = false →
        s.outputs.egmSensor.speedRef.has = false
  | _ => True

instance (s : EGMInterface κ μ α) : Decidable (s.withoutVelocityOutputs h) :=
  inferInstanceAs (Decidable (_ = _))

instance (s : EGMInterface κ μ α) :
    ∀ e : Event κ υ β, Decidable (s.SwitchesCleanly h ParseFromArray e)
  | .datagram _ _ => inferInstanceAs (Decidable (_ → _ → _))
  | .user _ => .isTrue trivial
  | .setConfiguration _ => .isTrue trivial

/-- Without velocity outputs there is no speed reference, in the message object and the reply. -/
structure Speedless (s : EGMInterface κ μ α) : Prop where
  sensor : s.withoutVelocityOutputs h → s.outputs.egmSensor.speedRef.has = false
  reply : s.withoutVelocityOutputs h → ∀ reply, s.outputs.reply = some reply →
    reply.speedRef.has = false

omit [LinearOrder α] [Cmath α] [FloorRing α] in
theorem Speedless.finish {s : EGMInterface κ μ α}
    (hs : s.withoutVelocityOutputs h → s.outputs.egmSensor.speedRef.has = false) :
    Speedless h (s.finish h) := by
  have hsensor (hoff : (s.finish h).withoutVelocityOutputs h) :
      (s.finish h).outputs.egmSensor.speedRef.has = false := by
    have hkept := s.outputs.constructReply_speedRef (h.base s.configuration.active) hoff
    exact (congrArg Optional.has hkept).trans (hs hoff)
  refine ⟨hsensor, fun hoff reply hreply => ?_⟩
  rw [OutputContainer.constructReply_reply hreply]
  exact hsensor hoff

theorem Speedless.step {s : EGMInterface κ μ α} (hs : Speedless h s) (e : Event κ υ β)
    (he : s.SwitchesCleanly h ParseFromArray e) : Speedless h (s.step h ParseFromArray e) := by
  cases e with
  | user call => exact ⟨hs.sensor, hs.reply⟩
  | setConfiguration configuration => exact ⟨hs.sensor, hs.reply⟩
  | datagram data mid =>
      have hconfiguration := initializeCallback_configuration h ParseFromArray s data
      obtain ⟨hsensor, hreply⟩ := initializeCallback_outputs h ParseFromArray s data
      have hclean : (s.initializeCallback h ParseFromArray data).2.withoutVelocityOutputs h →
          (s.initializeCallback h ParseFromArray data).2.outputs.egmSensor.speedRef.has = false := by
        unfold withoutVelocityOutputs
        rw [hconfiguration, hsensor]
        split
        next hswitch => exact he hswitch
        next => exact hs.sensor
      change Speedless h (s.callback h ParseFromArray data mid)
      unfold callback
      simp only
      split
      next =>
        obtain ⟨hconfiguration', hsensor'⟩ :=
          execute_frame h (s.initializeCallback h ParseFromArray data).2 mid
        refine .finish h fun hoff => ?_
        rw [hsensor']
        refine hclean ?_
        unfold withoutVelocityOutputs at hoff ⊢
        rwa [hconfiguration'] at hoff
      next => exact ⟨hclean, fun _ reply h => absurd (hreply.symm.trans h) (by simp)⟩

/-- **No velocity reference without velocity outputs**, over any number of sessions and changes of
the configuration, if no configuration without velocity outputs becomes active while the message
object carries a speed reference. -/
theorem no_speedRef_without_velocity_outputs (configuration : κ) (motion : μ)
    (es : List (Event κ υ β))
    (hes : Along (step h ParseFromArray) (SwitchesCleanly h ParseFromArray)
      (init configuration motion) es)
    (hoff : (run (step h ParseFromArray) (init configuration motion) es).withoutVelocityOutputs h)
    (reply : EgmSensor α)
    (hreply : (run (step h ParseFromArray) (init configuration motion) es).outputs.reply =
      some reply) : reply.speedRef.has = false := by
  have hinit : Speedless h (init configuration motion) :=
    ⟨fun _ => rfl, fun _ _ h => absurd h (by simp [init, OutputContainer.init])⟩
  have hrun := hes.run_inv (I := Speedless h)
    (fun s e hs he => Speedless.step h ParseFromArray hs e he) hinit
  exact hrun.reply hoff reply hreply

/-- A configuration with six axes. -/
def configured (useVelocityOutputs : Bool) : BaseConfiguration ℚ :=
  { Evaluation.configurations.base with useVelocityOutputs := useVelocityOutputs }

/-- The first message of a session. -/
def startsSession : Event (BaseConfiguration ℚ) Empty (EgmRobot ℚ) :=
  .datagram (some (Evaluation.message 0 0 Evaluation.home true)) []

/-- Demo outputs become active in the second session, and velocity outputs are wanted from the third one
on. -/
def demoSecond : List (Event (BaseConfiguration ℚ) Empty (EgmRobot ℚ)) :=
  [startsSession, .setConfiguration { configured false with useDemoOutputs := true }, startsSession,
    .setConfiguration (configured true)]

theorem no_speedRef_demo_second :
    let s := run (step baseHandler Evaluation.parse) (init (configured false) ()) demoSecond
    s.configuration.active.useDemoOutputs = true ∧ s.outputs.reply.isSome = true ∧
      ∀ reply, s.outputs.reply = some reply → reply.speedRef.has = false :=
  ⟨by decide +kernel, by decide +kernel, no_speedRef_without_velocity_outputs baseHandler
    Evaluation.parse (configured false) () demoSecond (by decide +kernel) (by decide +kernel)⟩

/-- Velocity outputs in the first session, none wanted in the second: its reply still carries the
speed reference of the first. -/
theorem speedRef_of_earlier_session :
    (run (step baseHandler Evaluation.parse) (init (configured true) ())
      [startsSession, .setConfiguration (configured false), startsSession]).withoutVelocityOutputs
        baseHandler ∧
    (run (step baseHandler Evaluation.parse) (init (configured true) ())
      [startsSession, .setConfiguration (configured false), startsSession]).outputs.reply.map
        (fun reply => reply.speedRef.has) = some true := by
  decide +kernel

end EGMInterface

end AbbWrapper
