import PhantasmaPy.Carbon.MessageLaws

/-! # Call payloads

A call has more fields than its image has room for: sections take the place of the plain arguments, and a negative
register offset takes the place of the arguments of its section.  What remains determines the image.
-/

namespace PhantasmaPy.Carbon

open Wire CarbonWriter

/-! ## Sections -/

namespace CallArgSection

/-- What is written of a section. -/
def effective (self : CallArgSection) : CallArgSection :=
  if self.registerOffset < 0 then { registerOffset := self.registerOffset } else { args := self.args }

theorem effective_writeCarbon (self : CallArgSection) : self.effective.writeCarbon = self.writeCarbon := by
  unfold effective
  by_cases negative : self.registerOffset < 0
  · rw [if_pos negative, writeCarbon, writeCarbon, if_pos negative, if_pos negative]
  · rw [if_neg negative, writeCarbon, writeCarbon, if_neg negative, if_neg (Int.lt_irrefl 0)]

theorem effective_normal {self : CallArgSection} {out : Bytes} (emits : self.writeCarbon.Emits () out) :
    self.effective.Normal := by
  unfold effective
  by_cases negative : self.registerOffset < 0
  · rw [writeCarbon, if_pos negative] at emits
    rw [if_pos negative]
    exact .inl ⟨negative, (emits_writeSigned.mp emits).1, rfl⟩
  · rw [writeCarbon, if_neg negative] at emits
    obtain ⟨_, _, count, -⟩ := Put.emits_seq.mp emits
    rw [if_neg negative]
    exact .inr ⟨rfl, (emits_count.mp count).1⟩

end CallArgSection

/-! ## Calls -/

namespace TxMsgCall

/-- What is written of a call: the sections if there are any, and else the arguments. -/
def effective (self : TxMsgCall) : TxMsgCall :=
  match self.sections with
  | some ⟨first :: rest⟩ => { self with
      args := []
      sections := some ⟨(first :: rest).map CallArgSection.effective⟩ }
  | _ => { self with sections := none }

theorem effective_moduleId (self : TxMsgCall) : self.effective.moduleId = self.moduleId := by
  unfold effective
  split <;> rfl

theorem effective_methodId (self : TxMsgCall) : self.effective.methodId = self.methodId := by
  unfold effective
  split <;> rfl

theorem writeArgs_sections (moduleId methodId : Int) (args : Bytes) (first : CallArgSection)
    (rest : List CallArgSection) :
    writeArgs ⟨moduleId, methodId, args, some ⟨first :: rest⟩⟩ = (do
      write4 (-(first :: rest).length)
      Put.each CallArgSection.writeCarbon (first :: rest)) := rfl

theorem effective_writeArgs (self : TxMsgCall) : self.effective.writeArgs = self.writeArgs := by
  obtain ⟨moduleId, methodId, args, sections⟩ := self
  match sections with
  | none | some ⟨[]⟩ => rfl
  | some ⟨first :: rest⟩ =>
    unfold effective
    dsimp only
    rw [List.map_cons, writeArgs_sections, writeArgs_sections, ← List.map_cons, Put.each_map, List.length_map]
    congr 2
    funext _
    congr 1
    exact funext CallArgSection.effective_writeCarbon

theorem effective_writeCarbon (self : TxMsgCall) : self.effective.writeCarbon = self.writeCarbon := by
  unfold writeCarbon
  rw [self.effective_writeArgs, effective_moduleId, effective_methodId]

theorem effective_normal {self : TxMsgCall} {out : Bytes} (emits : self.writeArgs.Emits () out) :
    self.effective.Normal := by
  obtain ⟨moduleId, methodId, args, sections⟩ := self
  match sections with
  | none | some ⟨[]⟩ => exact (emits_writeByteArray.mp emits).1
  | some ⟨first :: rest⟩ =>
    rw [writeArgs_sections] at emits
    obtain ⟨_, _, count, each, -⟩ := Put.emits_seq.mp emits
    have bound := (emits_writeSigned.mp count).1
    unfold Signed at bound
    norm_num at bound
    refine ⟨rfl, by simp, ?_, ?_⟩
    · rw [List.length_map, List.length_cons]
      omega
    · intro section' member
      obtain ⟨original, inside, rfl⟩ := List.mem_map.mp member
      obtain ⟨image, written⟩ := Put.emits_each_mem each original inside
      exact CallArgSection.effective_normal written

theorem effective_inRange {self : TxMsgCall} {out : Bytes} (emits : self.writeCarbon.Emits () out) :
    self.effective.InRange := by
  obtain ⟨_, _, moduleId, rest, -⟩ := Put.emits_seq.mp emits
  obtain ⟨_, _, methodId, args, -⟩ := Put.emits_seq.mp rest
  unfold InRange
  rw [effective_moduleId, effective_methodId]
  exact ⟨(emits_writeUnsigned.mp moduleId).1, (emits_writeUnsigned.mp methodId).1, effective_normal args⟩

/-- The image of a call determines what was written of it, and nothing else: it is read back as that, and
    calls have the same image exactly when the same is written of them. -/
theorem callPayload_iff {left right : TxMsgCall} {image other : Bytes}
    (leftWritten : serialize left.writeCarbon = .ok image) (rightWritten : serialize right.writeCarbon = .ok other) :
    (image = other ↔ left.effective = right.effective) ∧ deserialize readCarbon image = .ok left.effective := by
  have emits := Put.bytes_eq_ok.mp leftWritten
  have emitsOther := Put.bytes_eq_ok.mp rightWritten
  have inRange := effective_inRange emits
  have inRangeOther := effective_inRange emitsOther
  rw [← effective_writeCarbon] at emits emitsOther
  refine ⟨⟨?_, ?_⟩, ?_⟩
  · rintro rfl
    exact lossless.roundTrips.injective inRange inRangeOther emits emitsOther
  · intro same
    rw [same] at emits
    exact (emits.unique emitsOther).2
  · obtain ⟨out, written, parses⟩ := lossless.roundTrips _ inRange
    obtain ⟨-, rfl⟩ := emits.unique written
    exact readAll_eq_ok.mpr parses.yields

/-- Two sections in both orders, one of them a register. -/
theorem callPayload_iff_sections :
    deserialize readCarbon [1, 0, 0, 0, 2, 0, 0, 0, 254, 255, 255, 255, 255, 255, 255, 255, 1, 0, 0, 0, 7] =
      .ok { moduleId := 1, methodId := 2, sections := some ⟨[{ registerOffset := -1 }, { args := [7] }]⟩ } :=
  (@callPayload_iff
    { moduleId := 1, methodId := 2, args := [9], sections := some ⟨[{ registerOffset := -1, args := [8] }, { args := [7] }]⟩ }
    { moduleId := 1, methodId := 2, args := [] } _ [1, 0, 0, 0, 2, 0, 0, 0, 0, 0, 0, 0] rfl rfl).2

/-- Different calls with the same bytes: arguments beside sections, an empty list of sections, arguments beside a
    register offset, and a register offset that is not negative. -/
theorem callPayload_ambiguous :
    let call (args : Bytes) (sections : Option MsgCallArgSections) : TxMsgCall :=
      { moduleId := 1, methodId := 2, args, sections }
    let register : CallArgSection := { registerOffset := -1 }
    serialize (call [1] (some ⟨[register]⟩)).writeCarbon = serialize (call [] (some ⟨[register]⟩)).writeCarbon ∧
      serialize (call [1] (some ⟨[]⟩)).writeCarbon = serialize (call [1] none).writeCarbon ∧
      serialize (call [] (some ⟨[{ registerOffset := -1, args := [1] }]⟩)).writeCarbon =
        serialize (call [] (some ⟨[register]⟩)).writeCarbon ∧
      serialize (call [] (some ⟨[{ registerOffset := 5, args := [1] }]⟩)).writeCarbon =
        serialize (call [] (some ⟨[{ args := [1] }]⟩)).writeCarbon ∧
      (serialize (call [1] (some ⟨[register]⟩)).writeCarbon).isOk = true ∧
      call [1] (some ⟨[register]⟩) ≠ call [] (some ⟨[register]⟩) := by
  decide +kernel

end TxMsgCall

end PhantasmaPy.Carbon
