import EdgeFleet.Cluster.Client
import EdgeFleet.Proofs.Check

/-!
# What requests over HTTP come to

A request is either answered or meets a fault, and the fault decides what is reported of it:
`Meets.perform_eq` splits a failed exchange into what has gone wrong and what is made of that.
`Told` says what ought to be made of it: what the cluster does not have is said to be missing, in
the way in which the request can say so, and any other fault is kept as it is. `told_reported_iff`
is the main result: a refusal is told as it ought to be exactly if the request heeds it.
-/

namespace EdgeFleet.Cluster.Client

section Exchange

variable (client : Client) (service : Http.Request → Option Http.Response) (asked : Request)

/-- What goes wrong with a request that is carried out over a service. -/
inductive Meets : ClusterFault → Prop
  /-- It cannot be written down. -/
  | unbuildable : client.encode asked = .error .unbuildable → Meets .unbuildable
  /-- Nothing comes back. -/
  | unserved {written : Http.Request} :
      client.encode asked = .ok written → service written = none → Meets .service
  /-- The response is no text. -/
  | notText {written : Http.Request} {response : Http.Response} :
      client.encode asked = .ok written → service written = some response →
        response.body.text? = none → Meets .notText
  /-- The response says that it failed. -/
  | refused {written : Http.Request} {response : Http.Response} {text : String} :
      client.encode asked = .ok written → service written = some response →
        response.body.text? = some text → response.isFailure →
          Meets (.refused (refusal response text))
  /-- The response is not what was asked for. -/
  | undecodable {written : Http.Request} {response : Http.Response} {text : String} :
      client.encode asked = .ok written → service written = some response →
        response.body.text? = some text → response.isFailure = false →
          (Json.parse? text).bind (object? asked) = none → Meets .undecodable

/-- The response to a request is the object that was asked for. -/
inductive Answered : asked.Answer → Prop
  | read {written : Http.Request} {response : Http.Response} {text : String}
      {answer : asked.Answer} :
      client.encode asked = .ok written → service written = some response →
        response.body.text? = some text → response.isFailure = false →
          (Json.parse? text).bind (object? asked) = some answer → Answered answer

end Exchange

section Report

variable (asked : Request)

/-- What is reported of a fault. -/
def reported : ClusterFault → Except Error asked.Answer
  | .refused status => refused asked status
  | fault => .error (.cluster (context asked) fault)

/-- Whether a result says that what a request is about is not there. A request that looks for an
object or deletes one has an answer that says so. -/
def SaysMissing : (asked : Request) → Except Error asked.Answer → Prop
  | .getDeployment _, result => result = .ok none
  | .deleteDeployment _, result | .deleteNetworkPolicy _, result => result = .ok false
  | .countNodes _, result => ∃ cause, result = .error (.notFound cause)
  | .createDeployment _, result | .applyDeployment _, result | .scaleDeployment _ _, result
  | .applyNetworkPolicy _, result => ∃ cause, result = .error (.notFound cause)

/-- Whether a request creates an object that may be there already. -/
def creates : Request → Bool
  | .createDeployment _ => true
  | _ => false

/-- What ought to be told of a fault. What is missing is said to be so, and what is there already
when it is to be created is a precondition that does not hold; everything else is kept. -/
def Told (result : Except Error asked.Answer) : ClusterFault → Prop
  | .refused status =>
    if status.code = 404 then SaysMissing asked result
    else if status.code = 409 ∧ creates asked then
      ∃ cause, result = .error (.failedPrecondition cause)
    else result = .error (.cluster (context asked) (.refused status))
  | fault => result = .error (.cluster (context asked) fault)

/-- Whether a request heeds that something is missing: a deletion does by the code of the refusal, a
search by the reason that it gives, and nothing else does. -/
def Heeds : Request → ClusterStatus → Prop
  | .deleteDeployment _, _ | .deleteNetworkPolicy _, _ => True
  | .getDeployment _, status => status.code = 404 ↔ status.reason = "NotFound"
  | .countNodes _, status | .createDeployment _, status | .applyDeployment _, status
  | .scaleDeployment _ _, status | .applyNetworkPolicy _, status => status.code ≠ 404

variable {asked}

/-- A refusal for what is missing is told as it ought to be exactly if the request heeds it. -/
theorem told_missing_iff {status : ClusterStatus} (hmissing : status.code = 404) :
    Told asked (refused asked status) (.refused status) ↔ Heeds asked status := by
  simp only [Told, if_pos hmissing]
  cases asked with
  | getDeployment =>
      by_cases hreason : status.reason = "NotFound" <;>
        simp [SaysMissing, refused, Heeds, hmissing, hreason]
  | deleteDeployment | deleteNetworkPolicy => simp [SaysMissing, refused, Heeds, hmissing]
  | countNodes | createDeployment | applyDeployment | scaleDeployment | applyNetworkPolicy =>
      simp [SaysMissing, refused, Heeds, hmissing]

/-- One for anything else is too, unless a search takes it for one for what is missing. -/
theorem told_present_iff {status : ClusterStatus} (hpresent : status.code ≠ 404) :
    Told asked (refused asked status) (.refused status) ↔ Heeds asked status := by
  simp only [Told, if_neg hpresent]
  cases asked with
  | getDeployment =>
      by_cases hreason : status.reason = "NotFound" <;>
        simp [refused, creates, Heeds, hpresent, hreason]
  | createDeployment =>
      by_cases hconflict : status.code = 409 <;>
        simp [refused, creates, Heeds, hpresent, hconflict]
  | deleteDeployment | deleteNetworkPolicy => simp [refused, creates, Heeds, hpresent]
  | countNodes | applyDeployment | scaleDeployment | applyNetworkPolicy =>
      simp [refused, creates, Heeds, hpresent]

/-- What is told of a fault is what ought to be told exactly if a refusal is heeded. -/
theorem told_reported_iff (fault : ClusterFault) :
    Told asked (reported asked fault) fault ↔
      ∀ status, fault = .refused status → Heeds asked status := by
  cases fault with
  | refused status =>
      have hiff : Told asked (refused asked status) (.refused status) ↔ Heeds asked status := by
        by_cases hmissing : status.code = 404
        · exact told_missing_iff hmissing
        · exact told_present_iff hmissing
      simpa [reported] using hiff
  | _ => simp [Told, reported]

/-- A request that does not heed what is missing says what the cluster has said of it. Only a search
may also take for missing what the cluster refuses for another reason. -/
theorem refused_of_not_heeds {status : ClusterStatus} (h : ¬ Heeds asked status) :
    if status.code = 404 then
      refused asked status = .error (.cluster (context asked) (.refused status))
    else SaysMissing asked (refused asked status) := by
  cases asked with
  | getDeployment =>
      by_cases hmissing : status.code = 404 <;> by_cases hreason : status.reason = "NotFound" <;>
        simp_all [Heeds, refused, SaysMissing]
  | deleteDeployment | deleteNetworkPolicy => exact absurd trivial h
  | countNodes | createDeployment | applyDeployment | scaleDeployment | applyNetworkPolicy =>
      have hmissing : status.code = 404 := Decidable.not_not.1 h
      simp [refused, hmissing]

end Report

section Perform

variable {client : Client} {service : Http.Request → Option Http.Response} {asked : Request}

/-- A target that is not well written cannot be built. -/
theorem build_error {method : Http.Method} {target : String} {content : Option Http.Content}
    {fault : ClusterFault} (h : build method target content = .error fault) :
    fault = .unbuildable := by
  unfold build at h
  split at h <;> cases h
  rfl

/-- Nor can what is asked about an object that has no name. -/
theorem object_path_error {path name : String} {next : String → Except ClusterFault Http.Request}
    {fault : ClusterFault} (h : (objectPath path name >>= next) = .error fault)
    (hnext : ∀ target fault, next target = .error fault → fault = .unbuildable) :
    fault = .unbuildable := by
  unfold objectPath at h
  split at h
  · cases h
    rfl
  · exact hnext _ _ h

/-- Nothing else keeps a request from being written down. -/
theorem encode_error {fault : ClusterFault} (h : client.encode asked = .error fault) :
    fault = .unbuildable := by
  cases asked with
  | countNodes | createDeployment => exact build_error h
  | getDeployment | scaleDeployment | deleteDeployment | applyDeployment | deleteNetworkPolicy
  | applyNetworkPolicy => exact object_path_error h fun _ _ hbuild => build_error hbuild

/-- A request either meets a fault or is answered. -/
theorem meets_or_answered (client : Client) (service : Http.Request → Option Http.Response)
    (asked : Request) :
    (∃ fault, client.Meets service asked fault) ∨
      ∃ answer, client.Answered service asked answer := by
  cases hencode : client.encode asked with
  | error fault =>
      obtain rfl := encode_error hencode
      exact .inl ⟨_, .unbuildable hencode⟩
  | ok written =>
      cases hservice : service written with
      | none => exact .inl ⟨_, .unserved hencode hservice⟩
      | some response =>
          cases htext : response.body.text? with
          | none => exact .inl ⟨_, .notText hencode hservice htext⟩
          | some text =>
              cases hfailure : response.isFailure with
              | true => exact .inl ⟨_, .refused hencode hservice htext hfailure⟩
              | false =>
                  cases hread : (Json.parse? text).bind (object? asked) with
                  | none => exact .inl ⟨_, .undecodable hencode hservice htext hfailure hread⟩
                  | some answer =>
                      exact .inr ⟨answer, .read hencode hservice htext hfailure hread⟩

/-- An object without a name is not sent anywhere. -/
theorem perform_nameless (h : checkName asked ≠ .ok ()) :
    client.perform service asked = .error (.internal "object has no name") := by
  have hnamed {metadata : Metadata} (h : checkName.named metadata ≠ .ok ()) :
      checkName.named metadata = .error (.internal "object has no name") := by
    unfold checkName.named at h ⊢
    split at h
    · exact absurd rfl h
    · next hnone => exact if_neg hnone
  have herror : checkName asked = .error (.internal "object has no name") := by
    cases asked with
    | createDeployment | applyDeployment | applyNetworkPolicy => exact hnamed h
    | _ => exact absurd rfl h
  simp [perform, request, herror, bind, Except.bind]

section Named

variable (hname : checkName asked = .ok ()) {written : Http.Request}
include hname

/-- What can be written down is written down if objects have names. -/
theorem request_eq (h : client.encode asked = .ok written) :
    client.request asked = .ok written := by
  simp [request, hname, h, bind, Except.bind, Except.mapError]

/-- A request that gets a response comes to what the response says. -/
theorem perform_served {response : Http.Response} (h : client.encode asked = .ok written)
    (hservice : service written = some response) :
    client.perform service asked = Client.answer asked response := by
  simp [perform, request_eq hname h, hservice, bind, Except.bind]

/-- A request that is answered comes to its answer. -/
theorem Answered.perform_eq {answer : asked.Answer} (h : client.Answered service asked answer) :
    client.perform service asked = .ok answer := by
  cases h with
  | read hencode hservice htext hfailure hread =>
      rw [perform_served hname hencode hservice]
      simp [Client.answer, htext, hfailure, hread]

/-- A request that meets a fault comes to what is reported of it. -/
theorem Meets.perform_eq {fault : ClusterFault} (h : client.Meets service asked fault) :
    client.perform service asked = reported asked fault := by
  cases h with
  | unbuildable hencode =>
      simp [perform, request, reported, hname, hencode, bind, Except.bind, Except.mapError]
  | unserved hencode hservice =>
      simp [perform, reported, request_eq hname hencode, hservice, bind, Except.bind]
  | notText hencode hservice htext =>
      rw [perform_served hname hencode hservice]
      simp [reported, Client.answer, htext]
  | refused hencode hservice htext hfailure =>
      rw [perform_served hname hencode hservice]
      simp [reported, Client.answer, htext, hfailure]
  | undecodable hencode hservice htext hfailure hread =>
      rw [perform_served hname hencode hservice]
      simp [reported, Client.answer, htext, hfailure, hread]

end Named

end Perform

end EdgeFleet.Cluster.Client
