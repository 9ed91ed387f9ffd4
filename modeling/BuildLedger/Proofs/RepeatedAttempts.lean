import BuildLedger.Http.Client

/-!
# How often a request is attempted

Every attempt has a number, a request that is built for it, and a line that the attempt and the
pause before it have left. A request ends with its first attempt that gets an answer or fails for
good, or with the last one that the limit allows; every attempt before that one found nobody. The
number of an attempt is also the number of repetitions so far. It is compared with the limit before
it grows, so it stays within the limit, and the loop is the same when numbers and pauses are machine
words.
-/
namespace BuildLedger.Http

/-- The end of a request whose last attempt this is. -/
def Attempt.ending : Attempt → Except Fault Response
  | .answered response => .ok response
  | .unreachable fault | .failed fault => .error fault

namespace Transport

variable {Line : Type}

/-! ## Attempts by number -/

section Numbered

variable (transport : Transport Line) (build : Nat → Except Fault Request) (line : Line)

/-- The line for the attempt of a number, when all attempts before it are made. -/
def lineBefore : Nat → Line
  | 0 => line
  | number + 1 =>
      transport.pause (pauseStep * (number + 1))
        (transport.attempt (build number) (lineBefore number)).2

/-- The attempt of a number, with the request that is built for it. -/
def attemptAt (number : Nat) : Attempt × Line :=
  transport.attempt (build number) (transport.lineBefore build line number)

/-- The attempts from one to another find nobody, but the last of them may. If it does not, there is
none left within the limit. -/
structure EndsAt (first limit number : Nat) : Prop where
  from_first : first ≤ number
  within : number ≤ limit
  nobody : ∀ earlier, first ≤ earlier → earlier < number →
    ∃ fault, (transport.attemptAt build line earlier).1 = .unreachable fault
  exhausted : ∀ fault, (transport.attemptAt build line number).1 = .unreachable fault →
    number = limit

variable {transport build line}

/-- An attempt that finds nobody is followed by the next one, on the line after the pause. -/
theorem repeat_send_again {used : Nat} {fault : Fault}
    (nobody : (transport.attemptAt build line used).1 = .unreachable fault) (left : Nat) :
    transport.repeatSend build (left + 1) used (transport.lineBefore build line used) =
      transport.repeatSend build left (used + 1) (transport.lineBefore build line (used + 1)) := by
  unfold attemptAt at nobody
  rcases tried : transport.attempt (build used) (transport.lineBefore build line used) with
    ⟨last, later⟩
  rw [tried] at nobody
  dsimp only at nobody
  subst nobody
  conv => lhs; unfold repeatSend
  simp only [lineBefore, tried]

/-- Any other attempt is the last one, and so is the one that leaves none. -/
theorem repeat_send_last {left used : Nat}
    (last : ∀ fault, (transport.attemptAt build line used).1 = .unreachable fault → left = 0) :
    transport.repeatSend build left used (transport.lineBefore build line used) =
      ((transport.attemptAt build line used).1.ending,
        (transport.attemptAt build line used).2) := by
  unfold attemptAt at last ⊢
  rcases tried : transport.attempt (build used) (transport.lineBefore build line used) with
    ⟨attempt, later⟩
  rw [tried] at last
  unfold repeatSend
  cases attempt with
  | answered response => simp only [tried, Attempt.ending]
  | failed fault => simp only [tried, Attempt.ending]
  | unreachable fault =>
      have none := last fault rfl
      subst none
      simp only [tried, Attempt.ending]

/-- From any attempt on, the loop goes on to the attempt that ends it, and ends as that one does. -/
theorem repeat_send_ends (transport : Transport Line) (build : Nat → Except Fault Request)
    (line : Line) (left used : Nat) :
    ∃ number, transport.EndsAt build line used (used + left) number ∧
      transport.repeatSend build left used (transport.lineBefore build line used) =
        ((transport.attemptAt build line number).1.ending,
          (transport.attemptAt build line number).2) := by
  induction left generalizing used with
  | zero =>
      refine ⟨used, ⟨Nat.le_refl _, Nat.le_refl _, ?_, fun _ _ => rfl⟩,
        repeat_send_last fun _ _ => rfl⟩
      intro earlier from_first before
      omega
  | succ left ih =>
      by_cases again : ∃ fault, (transport.attemptAt build line used).1 = .unreachable fault
      · obtain ⟨fault, nobody⟩ := again
        obtain ⟨number, ends, result⟩ := ih (used + 1)
        refine ⟨number, ⟨?_, ?_, ?_, ?_⟩, ?_⟩
        · have := ends.from_first
          omega
        · have := ends.within
          omega
        · intro earlier from_first before
          by_cases here : earlier = used
          · exact here ▸ ⟨fault, nobody⟩
          · exact ends.nobody earlier (by omega) before
        · intro fault last
          rw [ends.exhausted fault last]
          omega
        · rw [repeat_send_again nobody, result]
      · refine ⟨used, ⟨Nat.le_refl _, Nat.le_add_right _ _, ?_, ?_⟩, ?_⟩
        · intro earlier from_first before
          omega
        · intro fault last
          exact absurd ⟨fault, last⟩ again
        · apply repeat_send_last
          intro fault last
          exact absurd ⟨fault, last⟩ again

end Numbered

/-! ## The loop in machine words -/

/-- A counter below its limit has room for one more. -/
theorem grown {used limit : UInt32} (below : used < limit) :
    (used + 1).toNat = used.toNat + 1 := by
  have := UInt32.lt_iff_toNat_lt.mp below
  have := limit.toNat_lt
  rw [UInt32.toNat_add]
  exact Nat.mod_eq_of_lt (by simp; omega)

/-- The loop with a counter of 32 bits, which is compared with the limit before it grows, and with
pauses of 64 bits. -/
def sendCounted (transport : Transport Line) (build : Nat → Except Fault Request)
    (limit used : UInt32) (line : Line) : Except Fault Response × Line :=
  match transport.attempt (build used.toNat) line with
  | (.answered response, later) => (.ok response, later)
  | (.failed fault, later) => (.error fault, later)
  | (.unreachable fault, later) =>
      if used < limit then
        transport.sendCounted build limit (used + 1)
          (transport.pause (pauseStep.toUInt64 * (used + 1).toUInt64).toNat later)
      else (.error fault, later)
termination_by limit.toNat - used.toNat
decreasing_by
  next below =>
    rw [grown below]
    have := UInt32.lt_iff_toNat_lt.mp below
    omega

/-- The longest pause has room in a word, too. -/
theorem pause_uncut (count : UInt32) :
    (pauseStep.toUInt64 * count.toUInt64).toNat = pauseStep * count.toNat := by
  have := count.toNat_lt
  rw [UInt64.toNat_mul, UInt32.toNat_toUInt64]
  exact Nat.mod_eq_of_lt (by simp [pauseStep]; omega)

/-- The loop in words is the loop: no counter and no pause is cut off. -/
theorem send_counted (transport : Transport Line) (build : Nat → Except Fault Request)
    {limit used : UInt32} (within : used ≤ limit) (line : Line) :
    transport.sendCounted build limit used line =
      transport.repeatSend build (limit.toNat - used.toNat) used.toNat line := by
  fun_induction sendCounted transport build limit used line with
  | case1 used line response later tried =>
      unfold repeatSend
      simp only [tried]
  | case2 used line fault later tried =>
      unfold repeatSend
      simp only [tried]
  | case3 used line fault later tried below ih =>
      have order := UInt32.lt_iff_toNat_lt.mp below
      have next : used + 1 ≤ limit := by
        rw [UInt32.le_iff_toNat_le, grown below]
        exact order
      have left : limit.toNat - used.toNat = limit.toNat - (used + 1).toNat + 1 := by
        rw [grown below]
        omega
      rw [ih next, left, pause_uncut, grown below]
      conv => rhs; unfold repeatSend
      simp only [tried]
  | case4 used line fault later tried reached =>
      have none : limit.toNat - used.toNat = 0 := by
        have := UInt32.le_iff_toNat_le.mp (UInt32.not_lt.mp reached)
        omega
      unfold repeatSend
      simp only [tried, none]

/-! ## Requests of a client -/

/-- An attempt whose request cannot be built fails with the reason for that. -/
theorem attempt_unbuilt {build : Nat → Except Fault Request} {number : Nat} {fault : Fault}
    (unbuilt : build number = .error fault) (transport : Transport Line) (line : Line) :
    (transport.attemptAt build line number).1 = .failed fault := by
  rw [attemptAt, unbuilt]
  rfl

/-- A client sends a request as often as it finds nobody and has a repetition left, and each time
the request is built for that attempt. It returns the first answer, whatever the answer says. If
there is none, the reason is that a request could not be built, that an attempt failed for good, or
that the attempt after as many repetitions as the settings allow found nobody either. The numbers of
repetitions and the pauses have room in their words. -/
theorem attempts_end_within_limit {endpoint : Endpoint} {settings : Settings} {client : Client}
    (made : Client.ofSettings endpoint settings = .ok client) (transport : Transport Line)
    (build : Nat → Except Fault Request) (line : Line) :
    let limit := settings.connectionRetries.getD 3
    let sent := transport.send build client.retries line
    client.retries = limit.toNat ∧
    sent = transport.sendCounted build limit 0 line ∧
    ∃ number, transport.EndsAt build line 0 limit.toNat number ∧
      (∀ earlier < number, earlier + 1 ≤ limit.toNat ∧ earlier + 1 < UInt32.size ∧
        pauseStep * (earlier + 1) < UInt64.size) ∧
      sent.2 = (transport.attemptAt build line number).2 ∧
      ((∃ response, (transport.attemptAt build line number).1 = .answered response ∧
          sent.1 = .ok response) ∨
        (∃ fault, build number = .error fault ∧ sent.1 = .error fault) ∨
        (∃ request fault, build number = .ok request ∧
          (transport.attemptAt build line number).1 = .failed fault ∧ sent.1 = .error fault) ∨
        ∃ fault, number = limit.toNat ∧
          (transport.attemptAt build line number).1 = .unreachable fault ∧
          sent.1 = .error fault) := by
  intro limit sent
  have retries : client.retries = limit.toNat := by
    simp only [limit, (Client.of_settings_parts made).2]
    cases settings.connectionRetries <;> rfl
  have words : sent = transport.sendCounted build limit 0 line := by
    rw [send_counted transport build (UInt32.zero_le) line]
    simp only [sent, send, retries]
    rfl
  obtain ⟨number, ends, result⟩ := repeat_send_ends transport build line limit.toNat 0
  rw [Nat.zero_add] at ends
  have outcome : sent = ((transport.attemptAt build line number).1.ending,
      (transport.attemptAt build line number).2) := by
    rw [← result]
    simp only [sent, send, retries]
    rfl
  refine ⟨retries, words, number, ends, ?_, by rw [outcome], ?_⟩
  · intro earlier before
    have := ends.within
    have := limit.toNat_lt
    exact ⟨by omega, by simp only [UInt32.size]; omega,
      by simp only [UInt64.size, pauseStep]; omega⟩
  · rw [outcome]
    cases last : (transport.attemptAt build line number).1 with
    | answered response => exact Or.inl ⟨response, rfl, rfl⟩
    | unreachable fault =>
        exact Or.inr (Or.inr (Or.inr ⟨fault, ends.exhausted fault last, rfl, rfl⟩))
    | failed fault =>
        right
        cases built : build number with
        | ok request => exact Or.inr (Or.inl ⟨request, fault, rfl, rfl, rfl⟩)
        | error reason =>
            rw [attempt_unbuilt built] at last
            cases last
            exact Or.inl ⟨_, rfl, rfl⟩

/-- A line on which some exchanges find nobody before one is answered, with the pauses so far. -/
def reluctant (status : Nat) : Transport (Nat × List Nat) where
  exchange _ line :=
    match line.1 with
    | 0 => (.response ⟨status, ByteArray.empty⟩, line)
    | left + 1 => (.unreachable, left, line.2)
  pause milliseconds line := (line.1, line.2 ++ [milliseconds])

/-- Without a limit in the settings, the fourth attempt is made and its refusal is returned. -/
theorem fourth_attempt_is_answered :
    let endpoint : Endpoint :=
      { contextUrl := "http://repository/ledger", username := "", password := "" }
    let client : Client :=
      { base := { scheme := "http", host := some (.domain "repository"), path := ["ledger"] }
        username := "", password := "", retries := 3, relay := none }
    let request : Request :=
      { method := .put, url := client.base, headers := [], body := ByteArray.empty }
    let sent := (reluctant 503).send (fun _ => .ok request) client.retries (3, [])
    Client.ofSettings endpoint {} = .ok client ∧
      sent.1.toOption.map (·.status) = some 503 ∧ sent.2 = (0, [200, 400, 600]) ∧
      sent = (reluctant 503).sendCounted (fun _ => .ok request) 3 0 (3, []) ∧
      ∃ number, (reluctant 503).EndsAt (fun _ => .ok request) (3, []) 0 3 number := by
  intro endpoint client request sent
  have made : Client.ofSettings endpoint {} = .ok client :=
    Client.of_settings_without_proxy (by decide +kernel)
  obtain ⟨_, words, number, ends, _⟩ :=
    attempts_end_within_limit made (reluctant 503) (fun _ => .ok request) (3, [])
  exact ⟨made, by decide +kernel, by decide +kernel, words, number, ends⟩

end Transport

end BuildLedger.Http
