import BlockVolume.Proofs.LiveHost
import BlockVolume.Proofs.Transcripts
import BlockVolume.Unix.Host

namespace BlockVolume.Unix

def callOf : HostCall → SystemCall
  | .pathExists path => .stat path
  | .listDirectory dir => .readDirectory dir
  | .writeFile path content => .writeFile path content
  | .createDirectories path => .makeDirectories path
  | .createFile path => .touch path
  | .removeDirectory path => .removeDirectory path
  | .runProgram program args limit => .spawn program args limit
  | .requireProgram program args limit => .spawn program args limit
  | .sleep duration token => .wait duration token
  | .isCancelled token => .isCancelled token
  | .mount device target fstype options => .mount device target fstype options.flags options.data
  | .unmount target => .unmount target
  | .mountEntries => .readFile mountTableFile
  | .probe device => .spawn "blkid" (probeArgs device.text) probeLimit
  | .makeFilesystem device fstype extra =>
    .spawn (formatProgram fstype) (formatArgs fstype device.text extra) formatLimit
  | .checkFilesystem device => .spawn "fsck" ["-a", device.text] checkLimit
  | .growOnDisk device => .spawn "resize2fs" [device.text] growLimit
  | .growMounted path => .spawn "xfs_growfs" ["-d", path.text] growLimit
  | .log record => .log record

def outputOf (program : String) (limit : Duration) :
    Except IoError ProgramEnd → Except HostError ProgramOutput
  | .ok (.ended output) => .ok output
  | .ok .timedOut => .error (.commandTimedOut program limit.secs)
  | .error e => .error (if e.isNotFound then .commandNotFound program else .io e)

def successOf (program : String) (limit : Duration) (ended : Except IoError ProgramEnd) :
    Except HostError Unit :=
  (outputOf program limit ended).bind fun output =>
    if output.succeeded then .ok () else .error (programFailure program output)

def contentReported (ended : Except IoError ProgramEnd) : Except HostError DiskContent :=
  (outputOf "blkid" probeLimit ended).bind fun output =>
    if output.code = some nothingFound then .ok .blank
    else if output.succeeded then .ok (contentOf (Text.Utf8.decodeLossy output.stdout))
    else .error (programFailure "blkid" output)

def checkReported (ended : Except IoError ProgramEnd) : Except HostError CheckOutcome :=
  (outputOf "fsck" checkLimit ended).map fun output => CheckOutcome.ofExitCode output.code

def replyOf : (c : HostCall) → (callOf c).Reply → c.Reply
  | .pathExists _, answer => match (answer : Except IoError Unit) with
    | .ok () => .ok true
    | .error e => if e.isNotFound then .ok false else .error (.io e)
  | .listDirectory _, answer => ofIo answer
  | .writeFile .., answer => ofIo answer
  | .createDirectories _, answer => ofIo answer
  | .createFile _, answer => ofIo answer
  | .removeDirectory _, answer => ofIo answer
  | .runProgram program _ limit, ended => outputOf program limit ended
  | .requireProgram program _ limit, ended => successOf program limit ended
  | .sleep .., outcome => outcome
  | .isCancelled _, cancelled => cancelled
  | .mount _ target _ _, answer => answer.mapError (mountFailure target)
  | .unmount target, answer => answer.mapError (mountFailure target)
  | .mountEntries, answer => match (answer : Except IoError (List UInt8)) with
    | .ok content => match Text.Utf8.decode? content with
      | some text => .ok (MountTable.parse text)
      | none => .error (.io .notText)
    | .error e => .error (.io e)
  | .probe _, ended => contentReported ended
  | .makeFilesystem _ fstype _, ended => successOf (formatProgram fstype) formatLimit ended
  | .checkFilesystem _, ended => checkReported ended
  | .growOnDisk _, ended => successOf "resize2fs" growLimit ended
  | .growMounted _, ended => successOf "xfs_growfs" growLimit ended
  | .log _, () => ()

abbrev Service := (c : HostCall) × (callOf c).Reply

def Service.request (s : Service) : Plan.Exchange Host := ⟨s.1, replyOf s.1 s.2⟩

def Service.call (s : Service) : Plan.Exchange Unix := ⟨callOf s.1, s.2⟩

theorem Service.eq_of_request {s : Service} {c : HostCall} {reply : c.Reply}
    (h : s.request = ⟨c, reply⟩) : ∃ answer, s = ⟨c, answer⟩ ∧ reply = replyOf c answer := by
  obtain ⟨d, answer⟩ := s
  cases h
  exact ⟨answer, rfl, rfl⟩

def isAsking : Plan.Exchange Unix → Bool
  | ⟨.log _, _⟩ => false
  | ⟨.isCancelled _, _⟩ => false
  | _ => true

def asked (xs : List (Plan.Exchange Unix)) : List (Plan.Exchange Unix) := xs.filter isAsking

theorem asked_append (xs ys : List (Plan.Exchange Unix)) :
    asked (xs ++ ys) = asked xs ++ asked ys :=
  List.filter_append ..

theorem asked_cons {x : Plan.Exchange Unix} (h : isAsking x = true)
    (xs : List (Plan.Exchange Unix)) : asked (x :: xs) = x :: asked xs :=
  List.filter_cons_of_pos h

theorem Service.isAsking_call (s : Service) :
    isAsking s.call = BlockVolume.isAsking s.request := by
  obtain ⟨c, answer⟩ := s
  cases c <;> rfl

def service (c : HostCall) : Plan Unix c.Reply :=
  (ask (callOf c)).bind fun answer => .done (replyOf c answer)

theorem runProgram_eq (program : String) (args : List String) (limit : Duration) :
    runProgram program args limit =
      (spawn program args limit).bind fun ended => .done (outputOf program limit ended) := by
  refine congrArg (Plan.bind _) (funext fun ended => ?_)
  match ended with
  | .ok (.ended output) | .ok .timedOut | .error e => rfl

theorem requireProgram_eq (program : String) (args : List String) (limit : Duration) :
    requireProgram program args limit =
      (spawn program args limit).bind fun ended => .done (successOf program limit ended) := by
  change (runProgram program args limit).bind _ = _
  rw [runProgram_eq, Plan.bind_bind]
  refine congrArg (Plan.bind _) (funext fun ended => ?_)
  dsimp only [Plan.bind, successOf]
  cases outputOf program limit ended with
  | error e => rfl
  | ok output => cases h : output.succeeded <;> simp only [Except.bind, h] <;> rfl

theorem mountEntries_eq : mountEntries = service .mountEntries := by
  change (readText mountTableFile).bind _ = _
  refine (Plan.bind_bind (ask (.readFile mountTableFile)) _ _).trans ?_
  refine congrArg (Plan.bind _) (funext fun answer => ?_)
  match answer with
  | .ok content => cases h : Text.Utf8.decode? content <;> simp only [replyOf, h] <;> rfl
  | .error e => rfl

/-- A request is carried out by its call, or logged and then carried out by its call. -/
theorem perform_eq (c : HostCall) :
    perform c = service c ∨ ∃ record, perform c = (log record).bind fun _ => service c := by
  cases c with
  | pathExists path =>
      refine .inl (congrArg (Plan.bind _) (funext fun answer => ?_))
      match answer with
      | .ok () => rfl
      | .error e => cases h : e.isNotFound <;> simp only [replyOf, h] <;> rfl
  | runProgram program args limit => exact .inl (runProgram_eq program args limit)
  | requireProgram program args limit => exact .inl (requireProgram_eq program args limit)
  | growOnDisk device => exact .inl (requireProgram_eq ..)
  | growMounted path => exact .inl (requireProgram_eq ..)
  | mountEntries => exact .inl mountEntries_eq
  | probe device =>
      left
      change (runProgram ..).bind _ = _
      rw [runProgram_eq, Plan.bind_bind]
      refine congrArg (Plan.bind _) (funext fun ended => ?_)
      dsimp only [Plan.bind, replyOf, contentReported]
      cases outputOf "blkid" probeLimit ended with
      | error e => rfl
      | ok output =>
          dsimp only [Except.bind]
          split
          · rfl
          · split <;> rfl
  | makeFilesystem device fstype extra =>
      exact .inr ⟨_, congrArg (Plan.bind _) (funext fun _ => requireProgram_eq ..)⟩
  | checkFilesystem device =>
      refine .inr ⟨_, congrArg (Plan.bind _) (funext fun _ => ?_)⟩
      change (runProgram ..).bind _ = _
      rw [runProgram_eq, Plan.bind_bind]
      rfl
  | mount device target fstype options => exact .inr ⟨_, rfl⟩
  | _ => exact .inl rfl

theorem perform_transcript {c : HostCall} {block : List (Plan.Exchange Unix)} {reply : c.Reply}
    (h : (perform c).Transcript block reply) :
    ∃ s : Service, s.request = ⟨c, reply⟩ ∧ asked block = asked [s.call] := by
  have hserve {block : List (Plan.Exchange Unix)} (h : (service c).Transcript block reply) :
      ∃ s : Service, s.request = ⟨c, reply⟩ ∧ block = [s.call] := by
    cases h with
    | call rest =>
        cases rest
        exact ⟨⟨c, _⟩, rfl, rfl⟩
  obtain hp | ⟨record, hp⟩ := perform_eq c
  · obtain ⟨s, hs, rfl⟩ := hserve (hp ▸ h)
    exact ⟨s, hs, rfl⟩
  · rw [hp] at h
    cases h with
    | call rest =>
        obtain ⟨s, hs, rfl⟩ := hserve rest
        exact ⟨s, hs, rfl⟩

/-- Every run of a plan on a Unix system serves the requests of a run of the plan, one after the
other. -/
theorem onSystem_transcript {α : Type} {plan : Plan Host α} {ys : List (Plan.Exchange Unix)} {a : α}
    (h : (onSystem plan).Transcript ys a) :
    ∃ xs, ∃ services : List Service, plan.Transcript xs a ∧
      BlockVolume.asked xs = services.map Service.request ∧
      asked ys = services.map Service.call := by
  obtain ⟨xs, hxs, hexp⟩ := h.expand_cases
  refine ⟨xs, ?_⟩
  simp only [hxs, true_and]
  clear hxs h
  induction hexp with
  | nil => exact ⟨[], rfl, rfl⟩
  | @cons c reply block xs ys head rest ih =>
      obtain ⟨services, hrequests, hcalls⟩ := ih
      obtain ⟨s, hs, hblock⟩ := perform_transcript head
      have hasking := s.isAsking_call
      rw [asked_append, hblock, ← hs, asked, BlockVolume.asked]
      cases hb : isAsking s.call with
      | true =>
          refine ⟨s :: services, ?_, ?_⟩
          · rw [List.filter_cons_of_pos (hasking ▸ hb), ← BlockVolume.asked, hrequests]
            rfl
          · rw [List.filter_cons_of_pos hb, hcalls]
            rfl
      | false =>
          refine ⟨services, ?_, ?_⟩
          · rw [List.filter_cons_of_neg (by simp [← hasking, hb]), ← BlockVolume.asked, hrequests]
          · rw [List.filter_cons_of_neg (by simp [hb]), hcalls]
            rfl

def asHost {σ : Type} (handle : Plan.Handler Unix σ) : Plan.Handler Host σ :=
  fun c => (perform c).run handle

theorem run_onSystem {σ α : Type} (handle : Plan.Handler Unix σ) (plan : Plan Host α) (s : σ) :
    (onSystem plan).run handle s = plan.run (asHost handle) s :=
  Plan.run_expand (I := Host) (J := Unix) perform handle plan s

end BlockVolume.Unix
