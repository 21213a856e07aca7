import FlightLink.Proofs.AnswerBacklog

/-! Garbage in front of a frame. A reception takes a preamble together with the byte
behind it, so garbage that ends in preambles is taken in pairs. If their number is odd,
the last one is paired with the preamble of the frame, and the frame is lost with it. -/

namespace FlightLink

/-- How many preambles the bytes end in. -/
def hanging (bytes : Bytes) : Nat :=
  (bytes.reverse.takeWhile (· = Frame.preamble)).length

theorem hanging_append (front back : Bytes) :
    hanging (front ++ back) =
      if hanging back = back.length then back.length + hanging front else hanging back := by
  unfold hanging
  rw [List.reverse_append, List.takeWhile_append, List.length_reverse]
  split
  · rw [List.length_append, List.length_reverse]
  · rfl

theorem hanging_snoc (front : Bytes) : hanging (front ++ [Frame.preamble]) = hanging front + 1 := by
  have one : hanging [Frame.preamble] = 1 := rfl
  rw [hanging_append, one, List.length_singleton, if_pos rfl, Nat.add_comm]

namespace Noise

theorem append {front back : Bytes} (first : Noise front) (second : Noise back) :
    Noise (front ++ back) := by
  induction first with
  | nil => exact second
  | byte plain _ ih => exact .byte plain ih
  | pair unmarked _ ih => exact .pair unmarked ih

private theorem even_hanging_append (unit : Bytes) {rest : Bytes} (even : hanging unit % 2 = 0)
    (rests : hanging rest % 2 = 0) : hanging (unit ++ rest) % 2 = 0 := by
  rw [hanging_append]
  split
  next all =>
    rw [← all]
    omega
  next => exact rests

theorem even_hanging {noise : Bytes} (skipped : Noise noise) : hanging noise % 2 = 0 := by
  induction skipped with
  | nil => rfl
  | @byte byte rest plain _ ih =>
    have single : hanging [byte] = 0 := by simp [hanging, plain]
    exact even_hanging_append [byte] (by rw [single]) ih
  | @pair byte rest _ _ ih =>
    have double : hanging [Frame.preamble, byte] = if byte = Frame.preamble then 2 else 0 := by
      by_cases same : byte = Frame.preamble <;> simp [hanging, same]
    refine even_hanging_append [Frame.preamble, byte] ?_ ih
    rw [double]
    split <;> rfl

end Noise

/-- Bytes without the start of a frame, in either version. -/
def Startless (garbage : Bytes) : Prop := ∀ version, ¬ Announced version garbage

namespace Startless

variable {garbage : Bytes}

theorem noise_or_preamble (startless : Startless garbage) :
    Noise garbage ∨ ∃ noise, Noise noise ∧ garbage = noise ++ [Frame.preamble] := by
  obtain ⟨noise, rest, rfl, skipped, stop⟩ := exists_noise garbage
  cases stop with
  | nothing => exact .inl (by rwa [List.append_nil])
  | cut => exact .inr ⟨noise, skipped, rfl⟩
  | start version rest =>
    exact absurd ⟨noise, rest, by simp⟩ (startless version)

end Startless

namespace Parses

variable {version : Version} {noise input rest : Bytes} {receipt : Receipt}

theorem skip (skipped : Noise noise) (parses : Parses version input receipt rest) :
    Parses version (noise ++ input) receipt rest := by
  cases parses with
  | accepted more fits normal =>
    rw [← List.append_assoc]
    exact .accepted (skipped.append more) fits normal
  | corrupt more fits normal wrong =>
    rw [← List.append_assoc]
    exact .corrupt (skipped.append more) fits normal wrong
  | refused more fits refusal =>
    rw [← List.append_assoc]
    exact .refused (skipped.append more) fits refusal
  | foreign more =>
    rw [← List.append_assoc]
    exact .foreign (skipped.append more)
  | cut more broken =>
    rw [← List.append_assoc]
    exact .cut (skipped.append more) broken

theorem not_accepted_tail (frame : Frame) (code : UInt16) :
    ¬ Parses version ((frame.wire version).tail ++ rest) ⟨.ok code, frame.payload⟩ rest := by
  intro parses
  generalize input : (frame.wire version).tail ++ rest = bytes at parses
  generalize ended : (⟨.ok code, frame.payload⟩ : Receipt) = receipt at parses
  cases parses with
  | @accepted noise _ other =>
    have same : frame.payload = other.payload := congrArg Receipt.payload ended
    have lengths := congrArg List.length input
    simp [Frame.wire, Frame.header_eq_bytes, Header.length_bytes, same] at lengths
    omega
  | _ => cases ended

end Parses

private theorem preamble_unmarked (version : Version) : Frame.preamble ≠ version.marker := by
  cases version <;> decide

variable {version : Version} {garbage rest : Bytes} {frame : Frame} {respond : Responder} {line : Line}

/-- Behind garbage that holds no start of a frame, a frame is received, and nothing else is
taken, just when the garbage ends in an even number of preambles. Otherwise the reception goes
on behind the preamble of the frame. -/
theorem received_behind_garbage_iff (startless : Startless garbage) (fits : frame.Fits version)
    (normal : frame.direction ≠ Frame.refusal)
    (waiting : line.inbound = garbage ++ (frame.wire version ++ rest)) :
    ∃ receipt left, (receiveFrame version).Ends (Line.serves respond)
        (fun result after => result = receipt ∧ line.Took left after) line ∧
      (receipt = ⟨.ok frame.code, frame.payload⟩ ∧ left = rest ↔ hanging garbage % 2 = 0) ∧
      (hanging garbage % 2 = 1 →
        Parses version ((frame.wire version).tail ++ rest) receipt left) := by
  obtain skipped | ⟨noise, skipped, rfl⟩ := startless.noise_or_preamble
  · have parses := @Parses.accepted version garbage rest frame skipped fits normal
    rw [← waiting] at parses
    refine ⟨_, rest, parses.ends, ⟨fun _ => skipped.even_hanging, fun _ => ⟨rfl, rfl⟩⟩, ?_⟩
    intro odd
    rw [skipped.even_hanging] at odd
    cases odd
  · obtain ⟨receipt, left, parses⟩ := Parses.total version ((frame.wire version).tail ++ rest)
    have paired := Parses.skip (skipped.append (.pair preamble_unmarked .nil)) parses
    have split : noise ++ [Frame.preamble, Frame.preamble] ++ ((frame.wire version).tail ++ rest) =
        line.inbound := by
      simp [waiting, Frame.wire]
    rw [split] at paired
    refine ⟨receipt, left, paired.ends, ⟨?_, ?_⟩, fun _ => parses⟩
    · intro received
      obtain ⟨rfl, rfl⟩ := received
      exact absurd parses (Parses.not_accepted_tail frame _)
    · intro even
      have paired := skipped.even_hanging
      rw [hanging_snoc] at even
      omega

def soiled : Line :=
  ⟨.new .v1, [0x24, 0x24, 0x51, 0x24, 0x24] ++
    (Frame.wire .v1 ⟨Frame.answer, 0, 105, [0xDC, 0x05]⟩ ++ [0x24]), []⟩

/-- Preambles in pairs cost the frame behind them nothing. -/
theorem frame_kept_behind_pairs : ∃ receipt left,
    (receiveFrame .v1).Ends (Line.serves Responder.silent)
      (fun result after => result = receipt ∧ soiled.Took left after) soiled ∧
    receipt = ⟨.ok 105, [0xDC, 0x05]⟩ ∧ left = [0x24] := by
  have startless : Startless [0x24, 0x24, 0x51, 0x24, 0x24] := by
    intro version
    cases version <;> simp [Announced, List.infix_cons_iff, List.cons_prefix_cons, Frame.preamble,
      Version.marker]
  obtain ⟨receipt, left, ends, received, -⟩ :=
    @received_behind_garbage_iff .v1 _ [0x24] ⟨Frame.answer, 0, 105, [0xDC, 0x05]⟩ Responder.silent
      soiled startless (by decide) (by decide) rfl
  exact ⟨receipt, left, ends, received.mpr (by decide)⟩

/-- A line over MSPv1 with a preamble too many in front of an answer. -/
def stuttering : Line :=
  ⟨.new .v1, [Frame.preamble] ++ Frame.wire .v1 ⟨Frame.answer, 0, 105, [0xDC, 0x05]⟩, []⟩

/-- A single preamble costs the frame behind it: what is left of the frame is skipped as noise. -/
theorem frame_lost_behind_preamble : Startless [Frame.preamble] ∧
    (receiveFrame .v1).Ends (Line.serves Responder.silent)
      (fun result after => result = ⟨.error (.shortRead 0 1), []⟩ ∧ after.inbound = []) stuttering ∧
    ¬ (receiveFrame .v1).Ends (Line.serves Responder.silent)
      (fun result after => result = ⟨.ok 105, [0xDC, 0x05]⟩ ∧ after.inbound = []) stuttering := by
  have startless : Startless [Frame.preamble] := by
    intro version
    cases version <;> simp [Announced, List.infix_cons_iff, List.cons_prefix_cons, Version.marker]
  have noise : Noise stuttering.inbound :=
    .pair preamble_unmarked <| .byte (by decide) <| .byte (by decide) <| .byte (by decide) <|
      .byte (by decide) <| .byte (by decide) <| .byte (by decide) <| .byte (by decide) .nil
  have parses := @Parses.cut .v1 _ _ _ _ _ noise .preamble
  rw [List.append_nil] at parses
  have ends : (receiveFrame .v1).Ends (Line.serves Responder.silent)
      (fun result after => result = ⟨.error (.shortRead 0 1), []⟩ ∧ after.inbound = [])
      stuttering := by
    apply (Parses.ends parses).weaken
    intro result after ended
    obtain ⟨rfl, took⟩ := ended
    exact ⟨rfl, took.inbound⟩
  refine ⟨startless, ends, fun received => ?_⟩
  obtain ⟨result, after, runs, same, -⟩ := ends.exists_runs
  obtain ⟨other, -⟩ := received.of_runs runs
  rw [same] at other
  cases other

end FlightLink
