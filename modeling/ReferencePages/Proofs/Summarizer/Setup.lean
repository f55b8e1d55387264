import ReferencePages.Summarizer
import ReferencePages.Proofs.Endpoint.Exchange
/-!
The choice of a summarizer. An endpoint that cannot be used leaves a run without a model, whatever it is that
stands in the way, with one exception: an address whose host is not well formed ends the run.
-/

namespace ReferencePages

/-- The address of the endpoint without slashes at its end. -/
def EndpointSettings.address (settings : EndpointSettings) : Text :=
  Text.trimEndWhile (· == '/') settings.baseUrl

/-- A model can be used: it is wanted, its address names no host or one of the local machine, the address can be
requested, and the endpoint answers the first request. -/
structure EndpointSettings.IsUsable (settings : EndpointSettings) (s : Session) : Prop where
  unskipped : settings.skip = false
  localHost : ∃ host, Url.host? settings.address = .ok host ∧ ∀ name ∈ host, Url.isLocalHost name = true
  accepted : ∃ tags, Url.requested (settings.address ++ "/api/tags") = .ok tags
  answers : (Runner.nextOutcome s).isOk = true

namespace Runner

/-- The runner that the settings describe. -/
def ofSettings (settings : EndpointSettings) : Runner :=
  { model := settings.model, baseUrl := settings.address, probeTimeout := settings.probeTimeout
    rehearsed := false }

/-- A runner of an endpoint finds out whether it answers, if it can be requested at all. A fault of the
transport is as good as silence. -/
theorem probe_outcome {r : Runner} (asksEndpoint : r.rehearsed = false) {s : Session}
    (transport : ∀ fault, nextOutcome s = .error fault → fault.isOfTransport = true) :
    ∃ answers t, r.probe.outcome s = (.ok answers, t) ∧
      (answers = true ↔ (∃ tags, Url.requested (r.baseUrl ++ "/api/tags") = .ok tags) ∧
        (nextOutcome s).isOk = true) := by
  cases requested : Url.requested (r.baseUrl ++ "/api/tags") with
  | ok tags =>
    obtain ⟨t, probed, _⟩ := probe_sends asksEndpoint requested transport
    exact ⟨_, t, probed, by simp⟩
  | error fault =>
    refine ⟨false, s, ?_, by simp⟩
    unfold probe
    rw [if_neg (by simp [asksEndpoint]), probeRequest, requested]
    rfl

end Runner

namespace Summarizer

variable {settings : EndpointSettings} {s : Session}

/-- A host that is not well formed is no refusal of the endpoint, and the failure goes on to the caller. -/
theorem runnerOf_malformed {fault : Url.Fault} (malformed : Url.host? settings.address = .error fault) :
    (runnerOf settings).outcome s = (.error (.url fault), s) := by
  have failed : Runner.new settings.model settings.baseUrl settings.probeTimeout = .error (.url fault) := by
    unfold Runner.new Runner.localUrl
    dsimp only
    rw [EndpointSettings.address] at malformed
    rw [malformed]
    rfl
  unfold runnerOf
  rw [failed]
  rfl

theorem runnerOf_local {host : Option Text} (named : Url.host? settings.address = .ok host)
    (isLocal : ∀ name ∈ host, Url.isLocalHost name = true) :
    (runnerOf settings).outcome s = (.ok (some (Runner.ofSettings settings)), s) := by
  have kept : Runner.localUrl settings.baseUrl = .ok settings.address := by
    unfold Runner.localUrl
    dsimp only
    rw [EndpointSettings.address] at named
    rw [named]
    cases host with
    | none => rfl
    | some name => exact if_pos (isLocal name rfl)
  unfold runnerOf Runner.new
  rw [kept]
  rfl

/-- The endpoint is refused if it is on another machine. -/
theorem runnerOf_remote {host : Option Text} (named : Url.host? settings.address = .ok host)
    (remote : ¬ ∀ name ∈ host, Url.isLocalHost name = true) :
    ∃ t, (runnerOf settings).outcome s = (.ok none, t) := by
  cases host with
  | none => exact absurd nofun remote
  | some name =>
    have elsewhere : ¬ Url.isLocalHost name = true := fun isLocal => remote (by simp [isLocal])
    have refused : ∃ reason, Runner.localUrl settings.baseUrl = .error (.exchange (Runner.refusal reason)) := by
      unfold Runner.localUrl
      dsimp only
      rw [EndpointSettings.address] at named
      rw [named]
      exact ⟨_, if_neg elsewhere⟩
    obtain ⟨reason, refused⟩ := refused
    unfold runnerOf Runner.new
    rw [refused]
    exact ⟨_, rfl⟩

section Chosen

variable {usage : Usage} {t : Session} (unskipped : settings.skip = false) (noRunner : usage.runner = none)

include unskipped noRunner

theorem build_error {failure : Failure} (failed : (runnerOf settings).outcome s = (.error failure, t)) :
    (build settings usage).outcome s = (.error failure, t) := by
  unfold build runnerFor
  rw [if_neg (by simp [unskipped]), noRunner, Program.outcome_bind, failed]

theorem build_refused (refused : (runnerOf settings).outcome s = (.ok none, t)) :
    (build settings usage).outcome s = (.ok deterministic, t) := by
  unfold build runnerFor
  rw [if_neg (by simp [unskipped]), noRunner, Program.outcome_bind, refused]
  rfl

/-- With a runner of the settings there is a summarizer, and it asks the model if the endpoint has
answered. -/
theorem build_ofSettings
    (made : (runnerOf settings).outcome s = (.ok (some (Runner.ofSettings settings)), s))
    (transport : ∀ fault, Runner.nextOutcome s = .error fault → fault.isOfTransport = true) :
    ∃ answers summarizer t, (build settings usage).outcome s = (.ok summarizer, t) ∧
      (answers = true → summarizer.mode = .ai) ∧ (answers = false → summarizer = deterministic) ∧
      (answers = true ↔ (∃ tags, Url.requested (settings.address ++ "/api/tags") = .ok tags) ∧
        (Runner.nextOutcome s).isOk = true) := by
  obtain ⟨answers, t, probed, sign⟩ := Runner.probe_outcome (r := Runner.ofSettings settings) rfl transport
  unfold build runnerFor
  rw [if_neg (by simp [unskipped]), noRunner]
  dsimp only
  rw [Program.outcome_bind_ok made]
  dsimp only
  rw [Program.outcome_bind_ok probed]
  cases answers with
  | true =>
    rw [if_pos rfl, Program.outcome_bind, Program.outcome_log]
    exact ⟨true, _, _, rfl, fun _ => rfl, nofun, sign⟩
  | false =>
    rw [if_neg Bool.false_ne_true, Program.outcome_bind, Program.outcome_log]
    exact ⟨false, _, _, rfl, nofun, fun _ => rfl, sign⟩

end Chosen

/-- No model is wanted, or the host of its address is well formed or missing. -/
def HostSound (settings : EndpointSettings) : Prop :=
  settings.skip = true ∨ ∃ host, Url.host? settings.address = .ok host

/-- For any settings and an endpoint that may answer anything and fail in any way in which the transport can
fail: unless a model is wanted at an address whose host is not well formed there is a summarizer, which asks the
model if the endpoint can be used and is without a model otherwise. With such an address there is a failure
before anything is sent. -/
theorem build_available (settings : EndpointSettings) {usage : Usage} {s : Session}
    (noRunner : usage.runner = none)
    (transport : ∀ fault, Except.error fault ∈ s.endpoint.outcomes → fault.isOfTransport = true) :
    (HostSound settings → ∃ summarizer t, (build settings usage).outcome s = (.ok summarizer, t) ∧
      (settings.IsUsable s → summarizer.mode = .ai) ∧
      (¬ settings.IsUsable s → summarizer = deterministic)) ∧
    (¬ HostSound settings → ∃ fault, Url.host? settings.address = .error fault ∧
      (build settings usage).outcome s = (.error (.url fault), s)) := by
  cases skip : settings.skip with
  | true =>
    refine ⟨fun _ => ?_, fun unsound => absurd (.inl skip) unsound⟩
    unfold build
    rw [if_pos skip, Program.outcome_bind, Program.outcome_log]
    refine ⟨_, _, rfl, fun usable => ?_, fun _ => rfl⟩
    rw [usable.unskipped] at skip
    cases skip
  | false =>
    cases named : Url.host? settings.address with
    | error fault =>
      refine ⟨fun sound => ?_, fun _ => ⟨fault, rfl, build_error skip noRunner (runnerOf_malformed named)⟩⟩
      rcases sound with skipped | ⟨host, named'⟩
      · rw [skip] at skipped
        cases skipped
      · rw [named] at named'
        cases named'
    | ok host =>
      refine ⟨fun _ => ?_, fun unsound => absurd (.inr ⟨host, named⟩) unsound⟩
      by_cases isLocal : ∀ name ∈ host, Url.isLocalHost name = true
      · obtain ⟨answers, summarizer, t, built, ai, plain, sign⟩ :=
          build_ofSettings skip noRunner (runnerOf_local named isLocal) (Runner.nextOutcome_transport transport)
        refine ⟨summarizer, t, built, fun usable => ai (sign.mpr ⟨usable.accepted, usable.answers⟩),
          fun unusable => plain (Bool.eq_false_iff.mpr fun answered => unusable ?_)⟩
        exact ⟨skip, ⟨host, named, isLocal⟩, (sign.mp answered).1, (sign.mp answered).2⟩
      · obtain ⟨t, refused⟩ := runnerOf_remote (s := s) named isLocal
        refine ⟨deterministic, t, build_refused skip noRunner refused, fun usable => ?_, fun _ => rfl⟩
        obtain ⟨other, named', isLocal'⟩ := usable.localHost
        rw [named] at named'
        cases named'
        exact absurd isLocal' isLocal

/-- The usual settings with a model at an address. -/
def settingsAt (url : Text) : EndpointSettings :=
  { model := "m", baseUrl := url, skip := false, probeTimeout := Runner.standardProbeTimeout
    requestTimeout := none }

/-- A summarizer of one run that makes its own runner and keeps no transcripts. -/
def plainUsage : Usage :=
  { timeout := Runner.standardTimeout, label := "x", transcribes := false, runner := none }

/-- A process with an endpoint that answers once. -/
def answeredOnce : Session :=
  { Session.new { entries := [] } [] with endpoint := { outcomes := [.ok []], sent := [] } }

/-- A bracket that is not closed: nothing is asked of the endpoint, and there is no summarizer. -/
theorem build_available_bracket :
    plainUsage.runner = none ∧
      (∀ fault, Except.error fault ∈ answeredOnce.endpoint.outcomes → fault.isOfTransport = true) ∧
      (build (settingsAt "http://[::1") plainUsage).outcome answeredOnce =
        (.error (.url .unbalancedBrackets), answeredOnce) ∧
      ∃ summarizer t, (build (settingsAt "http://[::1]/") plainUsage).outcome answeredOnce = (.ok summarizer, t) ∧
        summarizer.mode = .ai := by
  have transport : ∀ fault, Except.error fault ∈ answeredOnce.endpoint.outcomes →
      fault.isOfTransport = true := by
    intro fault member
    cases List.mem_singleton.mp member
  have malformed : Url.host? (settingsAt "http://[::1").address = .error .unbalancedBrackets := by
    decide +kernel
  have named : Url.host? (settingsAt "http://[::1]/").address = .ok (some "::1") := by decide +kernel
  have unsound : ¬ HostSound (settingsAt "http://[::1") := by
    rintro (skipped | ⟨host, sound⟩)
    · cases skipped
    · rw [malformed] at sound
      cases sound
  have usable : (settingsAt "http://[::1]/").IsUsable answeredOnce := by
    refine ⟨rfl, ⟨_, named, ?_⟩, ⟨"http://[::1]/api/tags", by decide +kernel⟩, rfl⟩
    decide +kernel
  have noRunner : plainUsage.runner = none := rfl
  obtain ⟨fault, failed, run⟩ := (build_available _ noRunner transport).2 unsound
  rw [malformed] at failed
  cases failed
  obtain ⟨summarizer, t, built, ai, _⟩ :=
    (build_available _ noRunner transport).1 (.inr ⟨_, named⟩)
  exact ⟨noRunner, transport, run, summarizer, t, built, ai usable⟩

end Summarizer
end ReferencePages
