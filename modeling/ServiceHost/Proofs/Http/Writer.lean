/-
  ServiceHost.Proofs.Http.Writer — no record of the profile is lost, doubled or moved, and
  a flush is a barrier.

  Senders, the writer and the file go on in any order (`Reached`). The commands sent are at
  every moment those carried out, the one the writer holds and those in the queue; the
  records carried out are in the file, on their way there or in the buffer; the flushes
  carried out are acknowledged or wait for it (`Ledger`). The writer answers a flush only
  when nothing is on its way or in the buffer. So what was sent before a flush that is
  acknowledged is in the file, and stays there (`ProfileLog.delivered`). Without senders
  everything that can happen brings the end nearer, where all is in the file and every
  flush is acknowledged.

  A record takes one line: of the characters of a document only those of its texts could
  break it, and they are escaped (`Document.jsonChars_unbroken`).
-/

import ServiceHost.Http.ProfileLog
import ServiceHost.Proofs.Http.Context

namespace ServiceHost

open ServiceHost.Text

/-! ## One line -/

theorem Text.digits_unbroken (n : Nat) : '\n' ∉ Nat.toDigits 10 n := by
  intro h
  have hdigit := Nat.isDigit_of_mem_toDigits (by decide) (by decide) h
  exact absurd hdigit (by decide)

theorem Decimal.positional_unbroken (digits : Nat) (scale : Int) : '\n' ∉ (positional digits scale).toList := by
  unfold positional
  split
  · simp [Text.digits_unbroken, List.mem_replicate]
  · simp only [String.toList_ofList, List.mem_append, not_or]
    have hall : '\n' ∉ List.replicate ((-scale).toNat + 1 - (Nat.toDigits 10 digits).length) '0' ++
        Nat.toDigits 10 digits := by
      simp [Text.digits_unbroken, List.mem_replicate]
    refine ⟨fun h => hall (List.mem_of_mem_take h), fun h => ?_⟩
    split at h
    · cases h
    · rcases List.mem_cons.1 h with h | h
      · cases h
      · have hkept := (List.dropWhile_sublist _).subset (List.mem_reverse.1 h)
        exact hall (List.mem_of_mem_drop (List.mem_reverse.1 hkept))

theorem Decimal.Binary64.text_unbroken (x : Decimal.Binary64) : '\n' ∉ x.text.toList := by
  cases x with
  | nan => decide
  | infinite s => cases s <;> decide
  | finite s m e =>
    have hmagnitude : '\n' ∉ (if m = 0 then "0" else positional (shortest m e).1 (shortest m e).2).toList := by
      split
      · decide
      · exact positional_unbroken (shortest m e).1 (shortest m e).2
    unfold text
    cases s
    · exact hmagnitude
    · simpa [String.toList_append] using hmagnitude

namespace Document

theorem jsonChar_unbroken (c : Char) : '\n' ∉ jsonChar c := by
  have hhex : ∀ n < 0x20, '\n' ∉ List.replicate (4 - (Nat.toDigits 16 n).length) '0' ++ Nat.toDigits 16 n := by
    decide
  unfold jsonChar
  split
  case h_8 =>
    split
    · next hlt => simpa [hex] using hhex _ hlt
    · next hne _ _ _ _ _ => simpa using fun h => hne h.symm
  all_goals decide

theorem jsonString_unbroken (s : String) : '\n' ∉ jsonString s := by
  simp [jsonString, jsonChar_unbroken]

theorem commaJoined_unbroken {ps : List (List Char)} (h : ∀ p ∈ ps, '\n' ∉ p) : '\n' ∉ commaJoined ps := by
  induction ps using commaJoined.induct with
  | case1 => simp [commaJoined]
  | case2 p => simpa [commaJoined] using h
  | case3 p ps _ ih =>
    have hrest := ih fun q hq => h q (List.mem_cons_of_mem _ hq)
    simpa [commaJoined, hrest] using h p List.mem_cons_self

mutual

theorem jsonChars_unbroken : (d : Document) → '\n' ∉ d.jsonChars
  | null => by decide
  | bool b => by cases b <;> decide
  | int i => by
    rw [jsonChars, Int.toString_eq_repr, Int.repr_eq_if]
    split <;> simp [Nat.repr_eq_ofList_toDigits, Text.digits_unbroken]
  | real x => x.text_unbroken
  | text s => jsonString_unbroken s
  | moment s => jsonString_unbroken s
  | list xs => by simpa [jsonChars] using commaJoined_unbroken (itemChars_unbroken xs)
  | table es => by simpa [jsonChars] using commaJoined_unbroken (memberChars_unbroken es)

theorem itemChars_unbroken : (ds : List Document) → ∀ p ∈ itemChars ds, '\n' ∉ p
  | [] => by simp [itemChars]
  | d :: ds => by
    simp only [itemChars, List.mem_cons, forall_eq_or_imp]
    exact ⟨jsonChars_unbroken d, itemChars_unbroken ds⟩

theorem memberChars_unbroken : (es : List (String × Document)) → ∀ p ∈ memberChars es, '\n' ∉ p
  | [] => by simp [memberChars]
  | (key, d) :: es => by
    simp only [memberChars, List.mem_cons, forall_eq_or_imp]
    refine ⟨?_, memberChars_unbroken es⟩
    simp [jsonString_unbroken, jsonChars_unbroken d]

end

end Document

def lineBreak : UInt8 := 10

theorem Text.utf8EncodeChar_unbroken {c : Char} (h : c ≠ '\n') : lineBreak ∉ String.utf8EncodeChar c := by
  have hcode : c.val.toNat ≠ 10 := fun hc => h (Char.ext (UInt32.toNat_inj.1 hc))
  have hbyte {n : Nat} (hlt : n < 256) (hne : n ≠ 10) : lineBreak ≠ UInt8.ofNat n := by
    intro heq
    have := congrArg UInt8.toNat heq
    rw [UInt8.toNat_ofNat_of_lt' hlt] at this
    exact hne this.symm
  unfold String.utf8EncodeChar
  dsimp only
  split
  · simpa using hbyte (by omega) hcode
  · split
    · simp only [List.mem_cons, List.not_mem_nil, or_false, not_or]
      exact ⟨hbyte (by omega) (by omega), hbyte (by omega) (by omega)⟩
    · split
      · simp only [List.mem_cons, List.not_mem_nil, or_false, not_or]
        exact ⟨hbyte (by omega) (by omega), hbyte (by omega) (by omega), hbyte (by omega) (by omega)⟩
      · simp only [List.mem_cons, List.not_mem_nil, or_false, not_or]
        exact ⟨hbyte (by omega) (by omega), hbyte (by omega) (by omega), hbyte (by omega) (by omega),
          hbyte (by omega) (by omega)⟩

/-- Bytes that are one line, with the break at its end. -/
def OneLine (bytes : Octets) : Prop := ∃ text : Octets, bytes = text ++ [lineBreak] ∧ lineBreak ∉ text

theorem ProfileRecord.line_oneLine (r : ProfileRecord) : OneLine r.line := by
  refine ⟨utf8 r.toDocument.toJson, ?_, ?_⟩
  · have hjoin : r.toDocument.toJson ++ "\n" = String.ofList (r.toDocument.jsonChars ++ ['\n']) :=
      String.ofList_append.symm
    rw [line, hjoin, utf8_ofList, List.flatMap_append, Document.toJson, utf8_ofList]
    rfl
  · rw [Document.toJson, utf8_ofList, List.mem_flatMap]
    rintro ⟨c, hc, hbreak⟩
    refine Text.utf8EncodeChar_unbroken (fun heq => ?_) hbreak
    exact Document.jsonChars_unbroken _ (heq ▸ hc)

namespace Http

/-! ## What can happen -/

def bytesOf (cs : List ProfileCommand) : Octets :=
  cs.flatMap fun
    | .record line => line
    | .flush _ => []

def flushesOf (cs : List ProfileCommand) : List Nat :=
  cs.filterMap fun
    | .record _ => none
    | .flush id => some id

@[simp] theorem bytesOf_append (cs ds : List ProfileCommand) : bytesOf (cs ++ ds) = bytesOf cs ++ bytesOf ds :=
  List.flatMap_append

@[simp] theorem flushesOf_append (cs ds : List ProfileCommand) : flushesOf (cs ++ ds) = flushesOf cs ++ flushesOf ds :=
  List.filterMap_append

@[simp] theorem bytesOf_record (line : Octets) : bytesOf [.record line] = line := List.append_nil line

@[simp] theorem bytesOf_flush (id : Nat) : bytesOf [.flush id] = [] := rfl

@[simp] theorem flushesOf_record (line : Octets) : flushesOf [.record line] = [] := rfl

@[simp] theorem flushesOf_flush (id : Nat) : flushesOf [.flush id] = [id] := rfl

theorem bytesOf_mono {cs ds : List ProfileCommand} (h : cs <+: ds) : bytesOf cs <+: bytesOf ds := by
  obtain ⟨rest, rfl⟩ := h
  exact ⟨bytesOf rest, (bytesOf_append cs rest).symm⟩

theorem flushesOf_mono {cs ds : List ProfileCommand} (h : cs <+: ds) : flushesOf cs <+: flushesOf ds := by
  obtain ⟨rest, rfl⟩ := h
  exact ⟨flushesOf rest, (flushesOf_append cs rest).symm⟩

namespace ProfileLog

variable {l m : ProfileLog} {sent done safe : List ProfileCommand}

/-- What happens without a sender: the writer takes a step, or something reaches the file. -/
inductive Moves (l : ProfileLog) : ProfileLog → Prop where
  | step {m : ProfileLog} (h : l.step = some m) : Moves l m
  | land {n : Nat} (hn : 0 < n) (h : l.inFlight ≠ []) : Moves l (l.land n)

/-- The logs there can be when some commands have been sent, whatever happened in between. -/
inductive Reached : List ProfileCommand → ProfileLog → Prop where
  | start : Reached [] {}
  | send {sent : List ProfileCommand} {l : ProfileLog} (h : Reached sent l) (hs : l.hasSenders = true)
      (c : ProfileCommand) : Reached (sent ++ [c]) (l.send c)
  | release {sent : List ProfileCommand} {l : ProfileLog} (h : Reached sent l) : Reached sent l.release
  | move {sent : List ProfileCommand} {l m : ProfileLog} (h : Reached sent l) (hm : l.Moves m) : Reached sent m

theorem Moves.weight_lt (h : l.Moves m) : m.weight < l.weight := by
  cases h with
  | step h => exact weight_step h
  | land hn h => exact weight_land h hn

theorem hasSenders_write (l : ProfileLog) (line : Octets) : (l.write line).hasSenders = l.hasSenders := by
  unfold write handOver
  split <;> split <;> rfl

theorem Moves.hasSenders (h : l.Moves m) : m.hasSenders = l.hasSenders := by
  cases h with
  | step h =>
    cases steps_of_step h with
    | store => exact hasSenders_write ..
    | _ => rfl
  | land => rfl

/-! ## Where everything is -/

end ProfileLog

/-- The command that is taken but not carried out. -/
def WriterPhase.held : WriterPhase → List ProfileCommand
  | .holding c _ => [c]
  | _ => []

/-- Whether the buffer is empty in a phase, and all that was handed over in the file. -/
def WriterPhase.isDry : WriterPhase → Bool
  | .idle | .answering _ | .closing | .ended => true
  | _ => false

/-- The flushes that are taken but not acknowledged. -/
def WriterPhase.waiting : WriterPhase → List Nat
  | .holding _ flushes | .looking flushes | .emptying flushes | .answering flushes => flushes
  | _ => []

namespace ProfileLog

variable {l m : ProfileLog} {sent done safe : List ProfileCommand}

theorem write_eq (l : ProfileLog) (line : Octets) :
    (l.write line).file = l.file ∧ (l.write line).acknowledged = l.acknowledged ∧
      (l.write line).inFlight ++ (l.write line).buffer = l.inFlight ++ l.buffer ++ line := by
  unfold write handOver
  split
  · split <;> simp
  · next hfits =>
    split
    · next hlong =>
      have hempty : l.buffer = [] := List.length_eq_zero_iff.1 (by omega)
      simp [hempty]
    · simp

/--
  Where the commands sent are: some carried out, one held, the others in the queue. Those
  up to some point are safe: what they recorded is in the file, so that their flushes may
  be acknowledged.
-/
structure Ledger (sent done safe : List ProfileCommand) (l : ProfileLog) : Prop where
  parts : sent = done ++ l.phase.held ++ l.queue
  bytes : bytesOf done = l.file ++ (l.inFlight ++ l.buffer)
  flushes : flushesOf done = l.acknowledged ++ l.phase.waiting
  earlier : safe <+: done
  landed : bytesOf safe <+: l.file
  acknowledged : l.acknowledged <+: flushesOf safe
  dry : l.phase.isDry = true → l.buffer = [] ∧ l.inFlight = []
  closing : l.phase = .closing ∨ l.phase = .ended → l.queue = [] ∧ l.hasSenders = false

theorem Ledger.send (h : Ledger sent done safe l) (hs : l.hasSenders = true) (c : ProfileCommand) :
    Ledger (sent ++ [c]) done safe (l.send c) where
  parts := by rw [h.parts, List.append_assoc]; rfl
  bytes := h.bytes
  flushes := h.flushes
  earlier := h.earlier
  landed := h.landed
  acknowledged := h.acknowledged
  dry := h.dry
  closing hp := absurd hs (by simp [(h.closing hp).2])

theorem Ledger.release (h : Ledger sent done safe l) : Ledger sent done safe l.release :=
  { h with closing := fun hp => ⟨(h.closing hp).1, rfl⟩ }

theorem Ledger.land (h : Ledger sent done safe l) (n : Nat) : Ledger sent done safe (l.land n) where
  parts := h.parts
  bytes := by
    rw [h.bytes]
    simp only [ProfileLog.land, List.append_assoc]
    rw [← List.append_assoc (l.inFlight.take n), List.take_append_drop]
  flushes := h.flushes
  earlier := h.earlier
  landed := h.landed.trans ⟨_, rfl⟩
  acknowledged := h.acknowledged
  dry hp := by
    obtain ⟨hbuffer, hflight⟩ := h.dry hp
    simp [ProfileLog.land, hbuffer, hflight]
  closing := h.closing

theorem Ledger.goOn (h : Ledger sent done safe l) {queue : List ProfileCommand} {phase : WriterPhase}
    (hparts : phase.held ++ queue = l.phase.held ++ l.queue) (hwaiting : phase.waiting = l.phase.waiting)
    (hdry : phase.isDry = true → l.buffer = [] ∧ l.inFlight = [])
    (hclosing : phase = .closing ∨ phase = .ended → queue = [] ∧ l.hasSenders = false) :
    Ledger sent done safe { l with queue, phase } where
  parts := by rw [h.parts, List.append_assoc, List.append_assoc, hparts]
  bytes := h.bytes
  flushes := by rw [h.flushes, hwaiting]
  earlier := h.earlier
  landed := h.landed
  acknowledged := h.acknowledged
  dry := hdry
  closing := hclosing

theorem Ledger.store (h : Ledger sent done safe l) {line : Octets} {flushes : List Nat}
    (hp : l.phase = .holding (.record line) flushes) :
    Ledger sent (done ++ [.record line]) safe { l.write line with phase := .looking flushes } := by
  obtain ⟨hfile, hacknowledged, hbytes⟩ := l.write_eq line
  constructor
  case parts => simp [h.parts, hp, WriterPhase.held]
  case bytes =>
    change _ = (l.write line).file ++ ((l.write line).inFlight ++ (l.write line).buffer)
    rw [hbytes, hfile, bytesOf_append, h.bytes, bytesOf_record, List.append_assoc]
  case flushes =>
    change _ = (l.write line).acknowledged ++ flushes
    rw [hacknowledged, flushesOf_append, h.flushes, hp, flushesOf_record, List.append_nil]
    rfl
  case earlier => exact h.earlier.trans ⟨_, rfl⟩
  case landed => exact hfile ▸ h.landed
  case acknowledged => exact hacknowledged ▸ h.acknowledged
  case dry | closing => simp [WriterPhase.isDry]

theorem Ledger.note (h : Ledger sent done safe l) {id : Nat} {flushes : List Nat}
    (hp : l.phase = .holding (.flush id) flushes) :
    Ledger sent (done ++ [.flush id]) safe { l with phase := .looking (flushes ++ [id]) } := by
  constructor
  case parts => simp [h.parts, hp, WriterPhase.held]
  case bytes => rw [bytesOf_append, h.bytes, bytesOf_flush, List.append_nil]
  case flushes =>
    rw [flushesOf_append, h.flushes, hp, flushesOf_flush, List.append_assoc]
    rfl
  case earlier => exact h.earlier.trans ⟨_, rfl⟩
  case landed => exact h.landed
  case acknowledged => exact h.acknowledged
  case dry | closing => simp [WriterPhase.isDry]

/-- When the writer answers, all that was carried out is in the file, and so safe. -/
theorem Ledger.answer (h : Ledger sent done safe l) {id : Nat} {flushes : List Nat}
    (hp : l.phase = .answering (id :: flushes)) :
    Ledger sent done done { l with phase := .answering flushes, acknowledged := l.acknowledged ++ [id] } := by
  obtain ⟨hbuffer, hflight⟩ := h.dry (by rw [hp]; rfl)
  have hflushes : flushesOf done = l.acknowledged ++ [id] ++ flushes := by
    rw [h.flushes, hp, List.append_assoc]
    rfl
  have hbytes : bytesOf done = l.file := by
    rw [h.bytes, hbuffer, hflight, List.append_nil, List.append_nil]
  constructor
  case parts =>
    rw [h.parts, hp]
    rfl
  case bytes => exact h.bytes
  case flushes => exact hflushes
  case earlier => exact List.prefix_rfl
  case landed => exact hbytes ▸ List.prefix_rfl
  case acknowledged => exact ⟨flushes, hflushes.symm⟩
  case dry => exact fun _ => ⟨hbuffer, hflight⟩
  case closing => simp

/-- Every step keeps the books. -/
theorem Ledger.steps (h : Ledger sent done safe l) (hs : l.Steps m) : ∃ done safe, Ledger sent done safe m := by
  cases hs with
  | store hp => exact ⟨_, _, h.store hp⟩
  | note hp => exact ⟨_, _, h.note hp⟩
  | acknowledge hp => exact ⟨_, _, h.answer hp⟩
  | handOver hbuffer =>
    refine ⟨done, safe, { h with bytes := ?_, dry := fun hp => ?_ }⟩
    · simp [h.bytes, handOver]
    · exact absurd (h.dry hp).1 hbuffer
  | receive hp hq | receiveNext hp hq | pause hp hq =>
    refine ⟨done, safe, h.goOn ?_ ?_ (by simp [WriterPhase.isDry]) (by simp)⟩
    · simp [hp, hq, WriterPhase.held]
    · rw [hp]; rfl
  | emptied hp hbuffer hflight =>
    exact ⟨done, safe, h.goOn (by rw [hp]; rfl) (by rw [hp]; rfl) (fun _ => ⟨hbuffer, hflight⟩) (by simp)⟩
  | resume hp =>
    have hdry := h.dry (by rw [hp]; rfl)
    exact ⟨done, safe, h.goOn (by rw [hp]; rfl) (by rw [hp]; rfl) (fun _ => hdry) (by simp)⟩
  | close hp hq hsenders =>
    have hdry := h.dry (by rw [hp]; rfl)
    exact ⟨done, safe, h.goOn (by rw [hp]; rfl) (by rw [hp]; rfl) (fun _ => hdry) fun _ => ⟨hq, hsenders⟩⟩
  | finish hp hbuffer hflight =>
    have hclosing := h.closing (.inl hp)
    exact ⟨done, safe, h.goOn (by rw [hp]; rfl) (by rw [hp]; rfl) (fun _ => ⟨hbuffer, hflight⟩) fun _ => hclosing⟩

theorem Reached.ledger (h : Reached sent l) : ∃ done safe, Ledger sent done safe l := by
  induction h with
  | start =>
    exact ⟨[], [], rfl, rfl, rfl, List.prefix_rfl, List.prefix_rfl, List.prefix_rfl, by simp, by simp⟩
  | send _ hs c ih =>
    obtain ⟨done, safe, h⟩ := ih
    exact ⟨done, safe, h.send hs c⟩
  | release _ ih =>
    obtain ⟨done, safe, h⟩ := ih
    exact ⟨done, safe, h.release⟩
  | move _ hm ih =>
    obtain ⟨done, safe, h⟩ := ih
    cases hm with
    | step hstep => exact h.steps (steps_of_step hstep)
    | @land n => exact ⟨done, safe, h.land n⟩

/-! ## What is in the file -/

theorem Ledger.done_sent (h : Ledger sent done safe l) : done <+: sent :=
  ⟨l.phase.held ++ l.queue, by rw [h.parts, List.append_assoc]⟩

theorem Ledger.written (h : Ledger sent done safe l) : l.file <+: bytesOf sent :=
  List.IsPrefix.trans ⟨_, h.bytes.symm⟩ (bytesOf_mono h.done_sent)

/-- If more flushes are acknowledged than were sent before some point, then all that was sent before it is safe. -/
theorem Ledger.safe_before (h : Ledger sent done safe l) {before after : List ProfileCommand}
    (hsent : sent = before ++ after) (hlt : (flushesOf before).length < l.acknowledged.length) : before <+: safe := by
  have hsafe : safe <+: sent := h.earlier.trans h.done_sent
  have horder := List.prefix_or_prefix_of_prefix hsafe ⟨after, hsent.symm⟩
  rcases horder with hshort | hlong
  · have hmore := Nat.le_trans h.acknowledged.length_le (flushesOf_mono hshort).length_le
    exact absurd hlt (Nat.not_lt.2 hmore)
  · exact hlong

/-- What was sent before a flush that is acknowledged is in the file, and behind it only what was sent after it. -/
theorem Ledger.barrier (h : Ledger sent done safe l) {before after : List ProfileCommand} {id : Nat}
    (hsent : sent = before ++ .flush id :: after) (hlt : (flushesOf before).length < l.acknowledged.length) :
    ∃ later, l.file = bytesOf before ++ later ∧ later <+: bytesOf after := by
  obtain ⟨later, hlater⟩ := (bytesOf_mono (h.safe_before hsent hlt)).trans h.landed
  have hwritten := h.written
  have hbytes : bytesOf sent = bytesOf before ++ bytesOf after := by
    rw [hsent, bytesOf_append]
    rfl
  rw [← hlater, hbytes, List.prefix_append_right_inj] at hwritten
  exact ⟨later, hlater.symm, hwritten⟩

/-- Where nothing moves, the writer waits for commands that nobody has sent, or has ended. -/
theorem phase_of_still (h : ∀ m, ¬ l.Moves m) :
    (l.phase = .idle ∧ l.queue = [] ∧ l.hasSenders = true) ∨ l.phase = .ended := by
  have hflight : l.inFlight = [] := Decidable.not_not.1 fun hne => h _ (.land Nat.one_pos hne)
  have hflushed (next : WriterPhase) : ∃ m, l.flushed next = some m := by
    unfold flushed
    split
    · exact ⟨_, rfl⟩
    · exact ⟨_, if_neg (not_not_intro hflight)⟩
  have hstep : l.step = none := Option.eq_none_iff_forall_ne_some.2 fun m hm => h m (.step hm)
  unfold step at hstep
  split at hstep
  case h_2 hp hq =>
    split at hstep
    · next hs => exact .inl ⟨hp, hq, hs⟩
    · cases hstep
  case h_6 | h_9 =>
    obtain ⟨m, hm⟩ := hflushed _
    rw [hm] at hstep
    cases hstep
  case h_10 hp => exact .inr hp
  all_goals cases hstep

/-- Where nothing moves, everything is in the file and acknowledged. -/
theorem Ledger.still (h : Ledger sent done safe l) (hstill : ∀ m, ¬ l.Moves m) :
    l.file = bytesOf sent ∧ l.acknowledged = flushesOf sent := by
  have hdone : l.phase.isDry = true ∧ l.phase.held = [] ∧ l.phase.waiting = [] ∧ l.queue = [] := by
    rcases phase_of_still hstill with ⟨hp, hq, -⟩ | hp
    · rw [hp]
      exact ⟨rfl, rfl, rfl, hq⟩
    · rw [hp]
      exact ⟨rfl, rfl, rfl, (h.closing (.inr hp)).1⟩
  obtain ⟨hdry, hheld, hwaiting, hqueue⟩ := hdone
  obtain ⟨hbuffer, hflight⟩ := h.dry hdry
  rw [h.parts, hheld, hqueue, List.append_nil, List.append_nil, h.bytes, h.flushes, hbuffer, hflight, hwaiting]
  simp

theorem still_of_ended (h : Ledger sent done safe l) (hp : l.phase = .ended) : ∀ m, ¬ l.Moves m := by
  intro m hm
  cases hm with
  | step hstep => simp [step, hp] at hstep
  | land _ hflight => exact hflight (h.dry (by rw [hp]; rfl)).2

theorem Reached.settle (h : Reached sent l) : Reached sent l.settle := by
  fun_induction ProfileLog.settle l with
  | case1 l m hstep ih => exact ih (h.move (.step hstep))
  | case2 l hstep hflight ih => exact ih (h.move (.land (List.length_pos_iff.2 hflight) hflight))
  | case3 l hstep hflight => exact h

theorem settle_still (l : ProfileLog) (m : ProfileLog) : ¬ l.settle.Moves m := by
  fun_induction ProfileLog.settle l with
  | case1 l m hstep ih => exact ih
  | case2 l hstep hflight ih => exact ih
  | case3 l hstep hflight =>
    intro hm
    cases hm with
    | step h => rw [hstep] at h; cases h
    | land _ h => exact hflight h

/-- A log that has settled has everything in the file, and every flush acknowledged. -/
theorem settle_delivered (h : Reached sent l) :
    l.settle.file = bytesOf sent ∧ l.settle.acknowledged = flushesOf sent := by
  obtain ⟨done, safe, hl⟩ := h.settle.ledger
  exact hl.still (settle_still l)

/-! ## Delivery -/

/-- A run of what happens without senders, as long as anything can. -/
def Unfolds (run : Nat → ProfileLog) : Prop := ∀ k, (run k).Moves (run (k + 1)) ∨ ∀ m, ¬ (run k).Moves m

/-- Without senders the writer comes to its end, after no more moves than the log weighs. -/
theorem ended_of_unfolds {run : Nat → ProfileLog} (hrun : Unfolds run) (hs : (run 0).hasSenders = false) :
    ∃ k ≤ (run 0).weight, (run k).phase = .ended := by
  induction hw : (run 0).weight using Nat.strongRecOn generalizing run with
  | ind w ih =>
    rcases hrun 0 with hmove | hstill
    · have hlt := hmove.weight_lt
      obtain ⟨k, hk, hended⟩ := @ih _ (hw ▸ hlt) (fun k => run (k + 1)) (fun k => hrun (k + 1))
        (hmove.hasSenders.trans hs) rfl
      exact ⟨k + 1, by omega, hended⟩
    · rcases phase_of_still hstill with ⟨-, -, hsenders⟩ | hp
      · rw [hs] at hsenders
        cases hsenders
      · exact ⟨0, Nat.zero_le _, hp⟩

/-- Where the records sent are, and which flushes are acknowledged. -/
structure Delivered (sent : List ProfileCommand) (l : ProfileLog) : Prop where
  /-- The file holds the records in the order they were sent, up to some byte. -/
  written : l.file <+: bytesOf sent
  /-- Flushes are acknowledged in the order they were sent. -/
  answered : l.acknowledged <+: flushesOf sent
  /-- If a flush is acknowledged, the file holds all that was sent before it, and then only what was sent after it. -/
  barrier : ∀ before id after, sent = before ++ .flush id :: after →
    (flushesOf before).length < l.acknowledged.length →
      ∃ later, l.file = bytesOf before ++ later ∧ later <+: bytesOf after
  /-- If nothing moves, or the writer has ended, everything is in the file and acknowledged. -/
  still : (∀ m, ¬ l.Moves m) → l.file = bytesOf sent ∧ l.acknowledged = flushesOf sent
  ended : l.phase = .ended → l.hasSenders = false ∧ l.file = bytesOf sent ∧ l.acknowledged = flushesOf sent
  /-- Once all senders are gone the writer ends, in whatever order things happen. -/
  ends : l.hasSenders = false → ∀ run, run 0 = l → Unfolds run → ∃ k ≤ l.weight, (run k).phase = .ended

/-- Whatever happens, records are neither lost nor doubled nor moved, each is one line, and a flush is a barrier. -/
theorem delivered (h : Reached sent l) : Delivered sent l ∧ ∀ r : ProfileRecord, OneLine r.line := by
  obtain ⟨done, safe, hl⟩ := h.ledger
  refine ⟨?_, ProfileRecord.line_oneLine⟩
  constructor
  case written => exact hl.written
  case answered => exact hl.acknowledged.trans (flushesOf_mono (hl.earlier.trans hl.done_sent))
  case barrier => exact fun before id after hsent hlt => hl.barrier hsent hlt
  case still => exact hl.still
  case ended => exact fun hp => ⟨(hl.closing (.inr hp)).2, hl.still (still_of_ended hl hp)⟩
  case ends =>
    intro hs run hrun hunfolds
    subst hrun
    exact ended_of_unfolds hunfolds hs

/-- A flush is answered while the file has but the record before it; another record has come in the meantime. -/
theorem delivered_flushed :
    ∃ l, Reached [.record [123, 125, 10], .flush 7, .record [91, 93, 10]] l ∧ l.acknowledged = [7] ∧
      l.file = [123, 125, 10] ∧ Delivered [.record [123, 125, 10], .flush 7, .record [91, 93, 10]] l := by
  have hsent := (Reached.start.send rfl (.record [123, 125, 10])).send rfl (.flush 7)
  have hheld := (hsent.move (.step rfl)).move (.step rfl)
  have hnoted := (hheld.move (.step rfl)).move (.step rfl)
  have hhanded := (hnoted.move (.step rfl)).move (.step rfl)
  have hlanded := (hhanded.move (.land (n := 2) (by decide) (by decide))).move (.land (n := 1) (by decide) (by decide))
  have hanswered := ((hlanded.send rfl (.record [91, 93, 10])).move (.step rfl)).move (.step rfl)
  exact ⟨_, hanswered, rfl, rfl, (delivered hanswered).1⟩

end ProfileLog

end Http

end ServiceHost
