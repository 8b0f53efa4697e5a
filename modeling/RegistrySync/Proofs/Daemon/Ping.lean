import RegistrySync.Proofs.Daemon.Traffic

/-!
How often the daemon is asked whether it is there.

An attempt that fails leaves a warning, and a pause unless it is the last one. So all that happens
before an attempt is told by the errors of the attempts before it, and the ping ends with the first
good answer or with the error of its last attempt.
-/

namespace RegistrySync.Daemon

variable {σ : Type}

lemma Request.flaw_eq_some {q : Request} {f : Failure} (h : q.flaw = some f) :
    ∃ url, f = .unwritable url := by
  simp only [Request.flaw] at h
  split at h
  · split at h
    · cases h
    · exact ⟨_, (Option.some.inj h).symm⟩
  · exact ⟨_, (Option.some.inj h).symm⟩

namespace Client

/-- The line behind the failure of an attempt. -/
def warning (attempt attempts : ℕ) (e : Error) : Line :=
  ⟨.warn, "Docker daemon not reachable (attempt " ++ toString attempt ++ "/" ++ toString attempts ++
    "): " ++ e.message⟩

lemma pingFailure_eq (attempt attempts : ℕ) (e : Error) :
    ⟨.warn, pingFailure attempt attempts e⟩ = warning attempt attempts e := rfl

variable (t : Transport σ) (q : Request) (attempts interval : ℕ)

/-- The state in which the daemon is asked again after `i` attempts. -/
def pingState (s : σ) : ℕ → σ
  | 0 => s
  | i + 1 =>
    match (send t q "ping").run (pingState s i) with
    | (.ok _, after) => after
    | (.error e, after) => t.sleep interval (t.print (warning (i + 1) attempts e) after)

/-- What comes of the attempt behind `i` others. -/
def pingOutcome (s : σ) (i : ℕ) : Except Error Answer :=
  ((send t q "ping").run (pingState t q attempts interval s i)).1

/-- What is done in sending a request: nothing if it can not be written. -/
def asked : List Deed := q.sent?.toList.map .request

/-- What is done in an attempt, behind `i` others, that fails. -/
def failed (i : ℕ) (e : Error) : List Deed :=
  asked q ++ [.line (warning (i + 1) attempts e)]

/-- What is done in the first attempts if they fail and others follow. -/
def waited (errors : ℕ → Error) (n : ℕ) : List Deed :=
  (List.range n).flatMap fun i => failed q attempts i (errors i) ++ [.pause interval]

variable {t q attempts interval} {s u : σ} {e : Error} {answer : Answer} {left n j : ℕ}
  {past : List Deed} {errors : ℕ → Error}

lemma reverse_asked : (asked q).reverse = asked q := by
  rw [asked]
  rcases q.sent? with _ | r <;> rfl

lemma waited_succ : waited q attempts interval errors (n + 1) =
    waited q attempts interval errors n ++ failed q attempts n (errors n) ++ [.pause interval] := by
  simp [waited, List.range_succ]

/-! ### One attempt -/

lemma pingFrom_of_ok (h : (send t q "ping").run s = (.ok answer, u)) :
    (pingFrom t q attempts interval left n).run s = (.ok (), u) := by
  rw [ExceptT.run, pingFrom.eq_def]
  dsimp only
  rw [h]

lemma pingFrom_zero (h : (send t q "ping").run s = (.error e, u)) :
    (pingFrom t q attempts interval 0 n).run s =
      (.error (.daemon (s!"Docker daemon not reachable after {attempts} attempts: " ++ e.message)),
        t.print (warning n attempts e) u) := by
  rw [ExceptT.run, pingFrom.eq_def]
  dsimp only
  rw [h, ← pingFailure_eq]

lemma pingFrom_succ (h : (send t q "ping").run s = (.error e, u)) :
    (pingFrom t q attempts interval (left + 1) n).run s =
      (pingFrom t q attempts interval left (n + 1)).run
        (t.sleep interval (t.print (warning n attempts e) u)) := by
  rw [ExceptT.run, pingFrom.eq_def]
  dsimp only
  rw [h]
  rfl

/-! ### All attempts -/

lemma send_eq_ok (hflaw : q.flaw = none) (s : σ) :
    ((send t q "ping").run s).1 = .ok answer ↔
      (t.send { q with url := q.url.withoutUser } s).1 = .answered answer ∧
        200 ≤ answer.status.code ∧ answer.status.code ≤ 299 := by
  rw [ExceptT.run, send, Transport.exchange, hflaw]
  dsimp only
  rcases (t.send { q with url := q.url.withoutUser } s).1 with _ | _ | _ | reply
  · simp
  · simp
  · simp
  · by_cases hgood : reply.status.isSuccess = true
    · simp only [Answer.accepted, hgood, if_true, Except.ok.injEq, Reply.answered.injEq,
        iff_self_and]
      rintro rfl
      simpa [Status.isSuccess] using hgood
    · simp only [Answer.accepted, hgood, Bool.false_eq_true, if_false, Reply.answered.injEq,
        reduceCtorEq, false_iff, not_and]
      rintro rfl hlow hhigh
      exact hgood (by simp [Status.isSuccess, hlow, hhigh])

lemma asked_cases (t : Transport σ) (q : Request) (attempts interval : ℕ) (s : σ) :
    let sent := { q with url := q.url.withoutUser }
    (asked q = [.request sent] ∧ ∀ i answer, pingOutcome t q attempts interval s i = .ok answer ↔
      (t.send sent (pingState t q attempts interval s i)).1 = .answered answer ∧
        200 ≤ answer.status.code ∧ answer.status.code ≤ 299) ∨
    asked q = [] ∧ ∀ i, ∃ url, pingOutcome t q attempts interval s i =
      .error ((Failure.unwritable url).error "ping") := by
  rcases hflaw : q.flaw with _ | f
  · refine .inl ⟨?_, fun i answer => send_eq_ok hflaw _⟩
    rw [asked, Request.sent?, hflaw]
    rfl
  · obtain ⟨url, rfl⟩ := Request.flaw_eq_some hflaw
    refine .inr ⟨?_, fun i => ⟨url, ?_⟩⟩
    · rw [asked, Request.sent?, hflaw]
      rfl
    · rw [pingOutcome, ExceptT.run, send, Transport.exchange, hflaw]

lemma pingState_succ (h : pingOutcome t q attempts interval s j = .error e) :
    pingState t q attempts interval s (j + 1) =
      t.sleep interval (t.print (warning (j + 1) attempts e)
        ((send t q "ping").run (pingState t q attempts interval s j)).2) := by
  rw [pingState]
  rw [pingOutcome] at h
  rcases hsend : (send t q "ping").run (pingState t q attempts interval s j) with ⟨o, u⟩
  rw [hsend] at h
  dsimp only at h
  rw [h]

lemma send_pingState {outcome : Except Error Answer}
    (h : pingOutcome t q attempts interval s j = outcome) :
    (send t.recorded q "ping").run (pingState t q attempts interval s j, past) =
      (outcome, ((send t q "ping").run (pingState t q attempts interval s j)).2,
        asked q ++ past) := by
  rw [send_recorded, ← h]
  rfl

lemma pingFrom_recorded (hj : j ≤ left)
    (h : ∀ i < j, pingOutcome t q attempts interval s i = .error (errors i)) :
    (pingFrom t.recorded q attempts interval left 1).run (s, past) =
      (pingFrom t.recorded q attempts interval (left - j) (j + 1)).run
        (pingState t q attempts interval s j,
          (waited q attempts interval errors j).reverse ++ past) := by
  induction j with
  | zero => rfl
  | succ j ih =>
    -- the last of these attempts is the first that follows the others
    have hleft : left - j = left - (j + 1) + 1 := by omega
    rw [ih (by omega) fun i hi => h i (by omega), hleft,
      pingFrom_succ (send_pingState (h j (by omega))), pingState_succ (h j (by omega)),
      waited_succ, failed]
    simp [Transport.recorded, reverse_asked]

variable {a : Access}

lemma ping_of_ok (hj : j < max attempts 1)
    (h : ∀ i < j, pingOutcome t a.ping (max attempts 1) interval s i = .error (errors i))
    (hok : pingOutcome t a.ping (max attempts 1) interval s j = .ok answer) :
    (ping t.recorded a attempts interval).run (s, past) =
      (.ok (), ((send t a.ping "ping").run (pingState t a.ping (max attempts 1) interval s j)).2,
        (waited a.ping (max attempts 1) interval errors j ++ asked a.ping).reverse ++ past) := by
  rw [ping, pingFrom_recorded (by omega) h, pingFrom_of_ok (send_pingState hok),
    List.reverse_append, reverse_asked, List.append_assoc]

lemma ping_of_errors {k : ℕ} (hk : max attempts 1 = k + 1)
    (h : ∀ i < k + 1, pingOutcome t a.ping (k + 1) interval s i = .error (errors i)) :
    (ping t.recorded a attempts interval).run (s, past) =
      (.error (.daemon (s!"Docker daemon not reachable after {k + 1} attempts: " ++
          (errors k).message)),
        t.print (warning (k + 1) (k + 1) (errors k))
          ((send t a.ping "ping").run (pingState t a.ping (k + 1) interval s k)).2,
        (waited a.ping (k + 1) interval errors k ++ failed a.ping (k + 1) k (errors k)).reverse ++
          past) := by
  have hping : ping t.recorded a attempts interval =
      pingFrom t.recorded a.ping (k + 1) interval k 1 := by rw [ping, hk]; rfl
  rw [hping, pingFrom_recorded (Nat.le_refl k) fun i hi => h i (by omega), Nat.sub_self,
    pingFrom_zero (send_pingState (h k (by omega))), failed]
  simp [Transport.recorded, reverse_asked]

variable (t a)

/-- **A ping keeps to its attempts.** It makes one after the other, `max attempts 1` at most. If the
first `j` fail and the next succeeds, the daemon was asked `j + 1` times, with a numbered warning
and a pause behind each failure. If all fail, there is a warning for each of them but no pause
behind the last one, whose error is the one that is told. Each attempt asks once, and succeeds with
an answer that has a status of success, unless the request can not be written. -/
theorem ping_keeps_budget (attempts interval : ℕ) (s : σ) (past : List Deed)
    (errors : ℕ → Error) :
    let k := max attempts 1
    let outcome := pingOutcome t a.ping k interval s
    let sent := { a.ping with url := a.ping.url.withoutUser }
    (asked a.ping = [.request sent] ∧ (∀ i answer, outcome i = .ok answer ↔
        (t.send sent (pingState t a.ping k interval s i)).1 = .answered answer ∧
          200 ≤ answer.status.code ∧ answer.status.code ≤ 299) ∨
      asked a.ping = [] ∧ ∀ i, ∃ url, outcome i =
        .error ((Failure.unwritable url).error "ping")) ∧
    (∀ j < k, (∀ i < j, outcome i = .error (errors i)) → ∀ answer, outcome j = .ok answer →
      ∃ u, (ping t.recorded a attempts interval).run (s, past) =
        (.ok (), u, (waited a.ping k interval errors j ++ asked a.ping).reverse ++ past)) ∧
    ((∀ i < k, outcome i = .error (errors i)) →
      ∃ u, (ping t.recorded a attempts interval).run (s, past) =
        (.error (.daemon (s!"Docker daemon not reachable after {k} attempts: " ++
            (errors (k - 1)).message)),
          u, (waited a.ping k interval errors (k - 1) ++
            failed a.ping k (k - 1) (errors (k - 1))).reverse ++ past)) := by
  obtain ⟨k, hk⟩ : ∃ k, max attempts 1 = k + 1 := ⟨max attempts 1 - 1, by omega⟩
  refine ⟨asked_cases t a.ping _ interval s, fun j hj h answer hok => ⟨_, ping_of_ok hj h hok⟩,
    fun h => ?_⟩
  rw [hk] at h ⊢
  exact ⟨_, ping_of_errors hk h⟩

/-- A daemon that refuses a request, lets the next one pass its deadline, is busy for the third and
answers from then on. The state counts the requests. -/
def late : Transport ℕ where
  send _ n := (match n with
    | 0 => .refused
    | 1 => .timedOut
    | 2 => .answered ⟨⟨503⟩, [Text.Utf8.encode "busy"], true⟩
    | _ => .answered ⟨⟨200⟩, [], true⟩, n + 1)
  sleep _ n := n
  print _ n := n

def lateError : ℕ → Error
  | 0 => .network ("Connection error during ping: error sending request for url " ++
      "(http://127.0.0.1:2375/_ping)")
  | 1 => .timeout "ping timeout: error sending request for url (http://127.0.0.1:2375/_ping)"
  | _ => .daemon "Daemon unavailable for ping: busy"

/-- Four attempts are enough for a late daemon, three are not, and none is as good as one. -/
theorem ping_keeps_budget_late :
    let base : Url := ⟨false, "", "", "127.0.0.1", some 2375, [""], none, none⟩
    let ping (attempts : ℕ) := (ping late.recorded ⟨base, "1.24", 5000⟩ attempts 500).run (0, [])
    let request : Deed := .request ⟨.get, { base with path := ["_ping"] }, none, some 5000⟩
    let refused (k : String) : Deed := .line ⟨.warn, "Docker daemon not reachable (attempt 1/" ++ k ++
      "): Network error: Connection error during ping: error sending request for url " ++
      "(http://127.0.0.1:2375/_ping)"⟩
    let timedOut (k : String) : Deed := .line ⟨.warn, "Docker daemon not reachable (attempt 2/" ++
      k ++ "): Timeout: ping timeout: error sending request for url (http://127.0.0.1:2375/_ping)"⟩
    let busy (k : String) : Deed := .line ⟨.warn, "Docker daemon not reachable (attempt 3/" ++ k ++
      "): Daemon error: Daemon unavailable for ping: busy"⟩
    (∃ u, ping 4 = (.ok (), u, [request, refused "4", .pause 500, request, timedOut "4", .pause 500,
      request, busy "4", .pause 500, request].reverse)) ∧
    (∃ u, ping 3 = (.error (.daemon ("Docker daemon not reachable after 3 attempts: " ++
        "Daemon error: Daemon unavailable for ping: busy")), u,
      [request, refused "3", .pause 500, request, timedOut "3", .pause 500, request,
        busy "3"].reverse)) ∧
    ∃ u, ping 0 = (.error (.daemon ("Docker daemon not reachable after 1 attempts: " ++
        "Network error: Connection error during ping: error sending request for url " ++
        "(http://127.0.0.1:2375/_ping)")), u,
      [request, refused "1"].reverse) := by
  intro base ping request refused timedOut busy
  let a : Access := ⟨base, "1.24", 5000⟩
  let told (text : String) (u : ℕ) (deeds : List Deed) : Except Error Unit × ℕ × List Deed :=
    (.error (.daemon text), u, deeds)
  have hdeeds : (waited a.ping (max 4 1) 500 lateError 3 ++ asked a.ping).reverse ++ [] =
      [request, refused "4", .pause 500, request, timedOut "4", .pause 500, request, busy "4",
        .pause 500, request].reverse := by decide +kernel
  have hfour := (ping_keeps_budget late a 4 500 0 [] lateError).2.1 3 (by decide)
    (by decide +kernel) ⟨⟨200⟩, [], true⟩ (by decide +kernel)
  rw [hdeeds] at hfour
  obtain ⟨u, hu⟩ := (ping_keeps_budget late a 3 500 0 [] lateError).2.2 (by decide +kernel)
  obtain ⟨v, hv⟩ := (ping_keeps_budget late a 0 500 0 [] lateError).2.2 (by decide +kernel)
  exact ⟨hfour,
    ⟨u, hu.trans (congrArg₂ (told · u ·) (by decide +kernel) (by decide +kernel))⟩,
    ⟨v, hv.trans (congrArg₂ (told · v ·) (by decide +kernel) (by decide +kernel))⟩⟩

end Client

end RegistrySync.Daemon
