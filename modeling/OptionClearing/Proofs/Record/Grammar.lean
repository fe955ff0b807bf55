import OptionClearing.Proofs.Record.Bytewise

/-!
Which strings are records. A record asks for its length first and then, field by field, for codes
that stand for something; all other bytes are free.
-/

namespace OptionClearing

structure CodeWord where
  name : String
  offset : Nat
  greatest : Nat
  deriving DecidableEq, Repr

namespace CodeWord

variable (order : ByteOrder) (bytes : Bytes)

def Faulty (code : CodeWord) : Prop := code.greatest < (bytes.wordAt order code.offset).toNat

instance : DecidablePred (Faulty order bytes) := fun _ => inferInstanceAs (Decidable (_ < _))

def fault (code : CodeWord) : RecordFault :=
  .invalidField code.name (bytes.wordAt order code.offset)

def firstFault? (codes : List CodeWord) : Option RecordFault :=
  (codes.find? fun code => decide (code.Faulty order bytes)).map (fault order bytes)

theorem firstFault?_cons (code : CodeWord) (codes : List CodeWord) :
    firstFault? order bytes (code :: codes) =
      if code.Faulty order bytes then some (code.fault order bytes)
      else firstFault? order bytes codes := by
  by_cases faulty : code.Faulty order bytes
  · simp only [firstFault?, List.find?_cons, faulty, decide_true, if_true, Option.map_some]
  · simp only [firstFault?, List.find?_cons, faulty, decide_false, if_false]

theorem firstFault?_eq_none_iff (codes : List CodeWord) :
    firstFault? order bytes codes = none ↔ ∀ code ∈ codes, ¬ code.Faulty order bytes := by
  simp only [firstFault?, Option.map_eq_none_iff, List.find?_eq_none, decide_eq_true_eq]

theorem firstFault?_eq_some_iff (codes : List CodeWord) (found : RecordFault) :
    firstFault? order bytes codes = some found ↔
      ∃ earlier code later, codes = earlier ++ code :: later ∧ code.Faulty order bytes ∧
        (∀ other ∈ earlier, ¬ other.Faulty order bytes) ∧ found = code.fault order bytes := by
  simp only [firstFault?, Option.map_eq_some_iff, List.find?_eq_some_iff_append, decide_eq_true_eq,
    Bool.not_eq_true', decide_eq_false_iff_not]
  constructor
  · rintro ⟨code, ⟨faulty, earlier, later, split, clear⟩, rfl⟩
    exact ⟨earlier, code, later, split, faulty, clear, rfl⟩
  · rintro ⟨earlier, code, later, split, faulty, clear, rfl⟩
    exact ⟨code, ⟨faulty, earlier, later, split, clear⟩, rfl⟩

end CodeWord

/-- The length of a record and its codes in the order in which they are read. -/
structure Grammar where
  length : Nat
  codes : List CodeWord
  deriving DecidableEq, Repr

/-- The fields of a layout, the first of them at an offset, ask for these codes and no more. -/
inductive Layout.AsksFor : Layout → Nat → List CodeWord → Prop
  | done (offset : Nat) : AsksFor [] offset []
  | free {first : Field} {rest : Layout} {offset : Nat} {codes : List CodeWord}
    (plain : first.shape.takesAll = true) (others : AsksFor rest (offset + first.width) codes) :
    AsksFor (first :: rest) offset codes
  | code {α : Type} [Coded α] {name : String} {greatest : Nat} {rest : Layout} {offset : Nat}
    {codes : List CodeWord}
    (unknown_iff : ∀ word, (Coded.ofCode? word : Option α) = none ↔ greatest < word.toNat)
    (others : AsksFor rest (offset + 4) codes) :
    AsksFor (⟨name, .choice α⟩ :: rest) offset (⟨name, offset, greatest⟩ :: codes)

def faultOf? {α : Type} : Except RecordFault α → Option RecordFault
  | .ok _ => none
  | .error fault => some fault

section Fault

variable {α β : Type} (answer : Except RecordFault α)

theorem faultOf?_map (change : α → β) : faultOf? (answer.map change) = faultOf? answer := by
  cases answer <;> rfl

theorem faultOf?_eq_none_iff : faultOf? answer = none ↔ ∃ value, answer = .ok value := by
  cases answer <;> simp [faultOf?]

theorem faultOf?_eq_some_iff (fault : RecordFault) :
    faultOf? answer = some fault ↔ answer = .error fault := by
  cases answer <;> simp [faultOf?]

end Fault

theorem Layout.AsksFor.faultOf?_decode {layout : Layout} {offset : Nat} {codes : List CodeWord}
    (asks : layout.AsksFor offset codes) (order : ByteOrder) (bytes : Bytes) :
    faultOf? (layout.decode order (bytes.drop offset)) = CodeWord.firstFault? order bytes codes := by
  induction asks with
  | done offset => rfl
  | @free first rest offset codes plain others ih =>
      obtain ⟨value, read⟩ :=
        first.decode_of_takesAll order ((bytes.drop offset).take first.width) plain
      simp only [decode, read, faultOf?_map, List.drop_drop]
      exact ih
  | @code α _ name greatest rest offset codes unknown_iff others ih =>
      have unknown : (Coded.ofCode? (bytes.wordAt order offset) : Option α) = none ↔
          CodeWord.Faulty order bytes ⟨name, offset, greatest⟩ := unknown_iff _
      rw [CodeWord.firstFault?_cons]
      simp only [decode, Field.decode, Field.width, Shape.width]
      rw [← Bytes.wordAt]
      cases known : (Coded.ofCode? (bytes.wordAt order offset) : Option α) with
      | none =>
          rw [if_pos (unknown.mp known)]
          rfl
      | some value =>
          have fine : ¬ CodeWord.Faulty order bytes ⟨name, offset, greatest⟩ := by
            rw [← unknown, known]
            exact Option.some_ne_none value
          rw [if_neg fine, ← ih, ← List.drop_drop]
          exact faultOf?_map _ _

namespace Reader

def chunkWithin? (reader : Reader) (width : Nat) : Option Bytes :=
  if reader.position + width ≤ reader.bytes.length then some (reader.chunk width) else none

/-- Reads as the cursor does, but has no answer once a read reaches beyond the bytes. -/
def fieldsWithin? (reader : Reader) :
    (layout : Layout) → Option (Except RecordFault (layout.Values × Reader))
  | [] => some (.ok ((), reader))
  | first :: rest =>
    (reader.chunkWithin? first.width).bind fun chunk =>
      match first.decode reader.order chunk with
      | .error fault => some (.error fault)
      | .ok value =>
        ((reader.advance first.width).fieldsWithin? rest).map fun answer =>
          answer.map fun (values, reader) => ((value, values), reader)

theorem fieldsWithin?_eq (reader : Reader) (layout : Layout)
    (room : reader.position + layout.width ≤ reader.bytes.length) :
    reader.fieldsWithin? layout = some (reader.fields layout) := by
  induction layout generalizing reader with
  | nil => rfl
  | cons first rest ih =>
      simp only [Layout.width] at room
      have within : reader.position + first.width ≤ reader.bytes.length := by omega
      have next : (reader.advance first.width).position + Layout.width rest ≤
          (reader.advance first.width).bytes.length := by
        simp only [advance]
        omega
      simp only [fieldsWithin?, chunkWithin?, if_pos within, Option.bind_some, fields, field]
      cases first.decode reader.order (reader.chunk first.width) with
      | error fault => rfl
      | ok value =>
          simp only [ih _ next, Option.map_some, bind, Except.bind, pure, Except.pure]
          cases (reader.advance first.width).fields rest <;> rfl

end Reader

namespace Record

variable {α : Type} [Record α]

def decodeWithin? (order : ByteOrder) (bytes : Bytes) : Option (Except RecordFault α) :=
  if bytes.length = width α then
    ((Reader.start order bytes).fieldsWithin? (layout α)).map fun answer =>
      answer.map fun (values, _) => ofFields values
  else some (.error (.lengthMismatch (width α) bytes.length))

theorem decodeWithin?_eq (order : ByteOrder) (bytes : Bytes) :
    decodeWithin? order bytes = some (decode order bytes : Except RecordFault α) := by
  by_cases whole : bytes.length = width α
  · have room : (Reader.start order bytes).position + (layout α).width ≤
        (Reader.start order bytes).bytes.length := by
      rw [Reader.start, Nat.zero_add]
      exact Nat.le_of_eq whole.symm
    rw [decodeWithin?, decode, if_pos whole, if_pos whole, Reader.fieldsWithin?_eq _ _ room]
    cases (Reader.start order bytes).fields (layout α) <;> rfl
  · rw [decodeWithin?, decode, if_neg whole, if_neg whole]

structure Follows (α : Type) [Record α] (grammar : Grammar) : Prop where
  accepted_iff : ∀ order bytes, (∃ record : α, decode order bytes = .ok record) ↔
    bytes.length = grammar.length ∧ ∀ code ∈ grammar.codes, ¬ code.Faulty order bytes
  length_iff : ∀ order bytes, (decode order bytes : Except RecordFault α) =
    .error (.lengthMismatch grammar.length bytes.length) ↔ bytes.length ≠ grammar.length
  code_iff : ∀ order bytes field word, (decode order bytes : Except RecordFault α) =
    .error (.invalidField field word) ↔
      bytes.length = grammar.length ∧ ∃ earlier code later,
        grammar.codes = earlier ++ code :: later ∧ code.Faulty order bytes ∧
          (∀ other ∈ earlier, ¬ other.Faulty order bytes) ∧
          field = code.name ∧ word = bytes.wordAt order code.offset
  within : ∀ order bytes, decodeWithin? order bytes = some (decode order bytes : Except RecordFault α)

section Codes

variable {codes : List CodeWord} (asks : (layout α).AsksFor 0 codes) (order : ByteOrder)
  {bytes : Bytes}

include asks

theorem faultOf?_decode (whole : bytes.length = width α) :
    faultOf? (decode order bytes : Except RecordFault α) =
      CodeWord.firstFault? order bytes codes := by
  rw [decode_eq, if_pos whole, faultOf?_map]
  exact asks.faultOf?_decode order bytes

theorem follows : Follows α ⟨width α, codes⟩ where
  accepted_iff order bytes := by
    by_cases whole : bytes.length = width α
    · rw [← faultOf?_eq_none_iff, faultOf?_decode asks order whole,
        CodeWord.firstFault?_eq_none_iff]
      exact (and_iff_right whole).symm
    · rw [decode_of_length_ne order bytes whole]
      simp [whole]
  length_iff order bytes := by
    constructor
    · intro refused whole
      have fault := faultOf?_decode asks order whole
      rw [refused] at fault
      -- a code's fault is never one of length
      obtain ⟨_, _, _, _, _, _, same⟩ :=
        (CodeWord.firstFault?_eq_some_iff order bytes codes _).mp fault.symm
      cases same
    · exact decode_of_length_ne order bytes
  code_iff order bytes field word := by
    by_cases whole : bytes.length = width α
    · rw [← faultOf?_eq_some_iff, faultOf?_decode asks order whole,
        CodeWord.firstFault?_eq_some_iff]
      simp only [CodeWord.fault, RecordFault.invalidField.injEq]
      exact (and_iff_right whole).symm
    · rw [decode_of_length_ne order bytes whole]
      simp [whole]
  within := decodeWithin?_eq

end Codes

end Record

namespace Record

open Layout.AsksFor

theorem contract_asksFor :
    (layout Contract).AsksFor 0 [⟨"option_kind", 0, 3⟩, ⟨"exercise", 20, 1⟩] :=
  .code OptionKind.ofCode?_eq_none_iff (.free rfl (.free rfl (.free rfl (.free rfl
    (.code ExerciseStyle.ofCode?_eq_none_iff (.free rfl (.free rfl (.done 32))))))))

theorem outcome_asksFor :
    (layout Outcome).AsksFor 0
      [⟨"moneyness", 8, 3⟩, ⟨"barrier_hit", 12, 1⟩, ⟨"pnl_sign", 24, 2⟩,
        ⟨"early_exercised", 28, 1⟩] :=
  .free rfl (.code Moneyness.ofCode?_eq_none_iff (.code Coded.ofCode?_flag_eq_none_iff (.free rfl
    (.code PnlSign.ofCode?_eq_none_iff (.code Coded.ofCode?_flag_eq_none_iff (.done 32))))))

theorem purchaseRequest_asksFor : (layout PurchaseRequest).AsksFor 0 [] :=
  .free rfl (.free rfl (.free rfl (.free rfl (.free rfl (.free rfl (.free rfl (.free rfl
    (.free rfl (.done 88)))))))))

theorem purchaseRecord_asksFor : (layout PurchaseRecord).AsksFor 0 [] :=
  .free rfl (.free rfl (.free rfl (.done 48)))

example : (decode .big ([0, 0, 0, 4] ++ List.replicate 16 0 ++ [0, 0, 0, 2] ++ List.replicate 8 0) :
    Except RecordFault Contract) = .error (.invalidField "option_kind" 4) := rfl

end Record

end OptionClearing
