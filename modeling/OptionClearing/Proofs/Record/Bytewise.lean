import OptionClearing.Proofs.Record.RoundTrip

/-!
Records byte by byte. Only a choice can be at fault, so a request is read from any bytes of its
length, and a contract is refused for its length or for the first of two unknown codes.
-/

namespace OptionClearing

namespace Coded

variable {α : Type} [Coded α]

theorem code_injective : Function.Injective (code : α → UInt32) := by
  intro first second same
  have known : ofCode? (code first) = some second := ofCode?_eq_some_iff.mpr same
  exact Option.some.inj ((ofCode?_eq_some_iff.mpr rfl).symm.trans known)

theorem ofCode?_eq_none_iff (word : UInt32) :
    (ofCode? word : Option α) = none ↔ ∀ choice : α, word ≠ code choice := by
  rw [Option.eq_none_iff_forall_ne_some]
  apply forall_congr'
  intro choice
  exact not_congr ofCode?_eq_some_iff

/-- Where the codes of all choices are counted from zero, the words above them are the unknown
ones. -/
theorem ofCode?_eq_none_iff_of_counted (choices : List α) (complete : ∀ choice, choice ∈ choices)
    (counted : choices.map (fun choice => (code choice).toNat) = List.range choices.length)
    (word : UInt32) : (ofCode? word : Option α) = none ↔ choices.length ≤ word.toNat := by
  rw [ofCode?_eq_none_iff]
  constructor
  · intro unknown
    by_contra small
    have listed := List.mem_range.mpr (Nat.lt_of_not_le small)
    rw [← counted] at listed
    obtain ⟨choice, _, same⟩ := List.mem_map.mp listed
    exact unknown choice (UInt32.toNat_inj.mp same.symm)
  · intro large choice same
    have listed : (code choice).toNat ∈ List.range choices.length := by
      rw [← counted]
      exact List.mem_map.mpr ⟨choice, complete choice, rfl⟩
    rw [← same] at listed
    exact absurd (List.mem_range.mp listed) (Nat.not_lt.mpr large)

theorem ofCode?_flag_eq_none_iff (word : UInt32) :
    (ofCode? word : Option Bool) = none ↔ 1 < word.toNat :=
  ofCode?_eq_none_iff_of_counted [false, true] (by decide) rfl word

end Coded

theorem OptionKind.ofCode?_eq_none_iff (word : UInt32) :
    (Coded.ofCode? word : Option OptionKind) = none ↔ 3 < word.toNat :=
  Coded.ofCode?_eq_none_iff_of_counted [.call, .put, .binaryCall, .binaryPut]
    (fun kind => by cases kind <;> decide) rfl word

theorem ExerciseStyle.ofCode?_eq_none_iff (word : UInt32) :
    (Coded.ofCode? word : Option ExerciseStyle) = none ↔ 1 < word.toNat :=
  Coded.ofCode?_eq_none_iff_of_counted [.european, .american]
    (fun style => by cases style <;> decide) rfl word

theorem Moneyness.ofCode?_eq_none_iff (word : UInt32) :
    (Coded.ofCode? word : Option Moneyness) = none ↔ 3 < word.toNat :=
  Coded.ofCode?_eq_none_iff_of_counted [.notApplicable, .inTheMoney, .outOfTheMoney, .atTheMoney]
    (fun moneyness => by cases moneyness <;> decide) rfl word

theorem PnlSign.ofCode?_eq_none_iff (word : UInt32) :
    (Coded.ofCode? word : Option PnlSign) = none ↔ 2 < word.toNat :=
  Coded.ofCode?_eq_none_iff_of_counted [.flat, .profit, .loss]
    (fun sign => by cases sign <;> decide) rfl word

def Shape.takesAll : Shape → Bool
  | choice _ => false
  | byte | word32 | word64 | raw _ => true

theorem Field.decode_of_takesAll (order : ByteOrder) (field : Field) (bytes : Bytes)
    (plain : field.shape.takesAll = true) : ∃ value, field.decode order bytes = .ok value := by
  rcases field with ⟨name, shape⟩
  cases shape with
  | choice α => cases plain
  | byte => exact ⟨_, rfl⟩
  | word32 => exact ⟨_, rfl⟩
  | word64 => exact ⟨_, rfl⟩
  | raw width => exact ⟨_, rfl⟩

theorem Layout.decode_of_takesAll (order : ByteOrder) (layout : Layout) (bytes : Bytes)
    (plain : ∀ field ∈ layout, field.shape.takesAll = true) :
    ∃ values, layout.decode order bytes = .ok values := by
  induction layout generalizing bytes with
  | nil => exact ⟨(), rfl⟩
  | cons first rest ih =>
      rw [List.forall_mem_cons] at plain
      obtain ⟨value, read⟩ :=
        first.decode_of_takesAll order (bytes.take first.width) plain.1
      obtain ⟨values, others⟩ := ih (bytes.drop first.width) plain.2
      refine ⟨(value, values), ?_⟩
      simp only [decode, read, others]
      rfl

theorem Record.decode_of_takesAll {α : Type} [Record α] (order : ByteOrder) (bytes : Bytes)
    (plain : ∀ field ∈ layout α, field.shape.takesAll = true) (whole : bytes.length = width α) :
    ∃ record : α, decode order bytes = .ok record := by
  obtain ⟨values, read⟩ := (layout α).decode_of_takesAll order bytes plain
  refine ⟨ofFields values, ?_⟩
  rw [decode_eq, if_pos whole, read]
  rfl

theorem Record.decode_of_length_ne {α : Type} [Record α] (order : ByteOrder) (bytes : Bytes)
    (wrong : bytes.length ≠ width α) :
    (decode order bytes : Except RecordFault α) =
      .error (.lengthMismatch (width α) bytes.length) := by
  rw [decode_eq, if_neg wrong]

theorem PurchaseRequest.decode_of_length (order : ByteOrder) (bytes : Bytes)
    (whole : bytes.length = 88) :
    ∃ request : PurchaseRequest, Record.decode order bytes = .ok request := by
  rw [← width_purchaseRequest] at whole
  have plain : ∀ field ∈ Record.layout PurchaseRequest, field.shape.takesAll = true := by
    simp [Record.layout, Shape.takesAll]
  exact Record.decode_of_takesAll order bytes plain whole

theorem Bytes.length_window (bytes : Bytes) {offset width : Nat}
    (within : offset + width ≤ bytes.length) :
    ((bytes.drop offset).take width).length = width := by
  rw [List.length_take, List.length_drop]
  omega

theorem Bytes.window_append (front middle back : Bytes) {offset width : Nat}
    (within : offset + width ≤ middle.length) :
    ((front ++ (middle ++ back)).drop (front.length + offset)).take width =
      (middle.drop offset).take width := by
  have room : width ≤ (middle.drop offset).length := by
    rw [List.length_drop]
    omega
  rw [← List.drop_drop, List.drop_left, List.drop_append_of_le_length (by omega),
    List.take_append_of_le_length room]

def Bytes.wordAt (order : ByteOrder) (bytes : Bytes) (offset : Nat) : UInt32 :=
  UInt32.ofNat (order.decode ((bytes.drop offset).take 4))

theorem Bytes.window_four (bytes : Bytes) {offset : Nat} (within : offset + 4 ≤ bytes.length) :
    (bytes.drop offset).take 4 =
      [bytes[offset], bytes[offset + 1], bytes[offset + 2], bytes[offset + 3]] := by
  rw [List.drop_eq_getElem_cons (by omega), List.drop_eq_getElem_cons (by omega),
    List.drop_eq_getElem_cons (by omega), List.drop_eq_getElem_cons (by omega)]
  rfl

/-- The four bytes of a word weigh 1, 2^8, 2^16 and 2^24, counted from the end that the order
begins with. -/
theorem Bytes.toNat_wordAt (order : ByteOrder) (bytes : Bytes) {offset : Nat}
    (within : offset + 4 ≤ bytes.length) :
    (bytes.wordAt order offset).toNat =
      match order with
      | .little => bytes[offset].toNat + 2 ^ 8 * bytes[offset + 1].toNat +
          2 ^ 16 * bytes[offset + 2].toNat + 2 ^ 24 * bytes[offset + 3].toNat
      | .big => 2 ^ 24 * bytes[offset].toNat + 2 ^ 16 * bytes[offset + 1].toNat +
          2 ^ 8 * bytes[offset + 2].toNat + bytes[offset + 3].toNat := by
  have bound := order.decode_lt ((bytes.drop offset).take 4)
  rw [bytes.length_window within] at bound
  have fits : order.decode ((bytes.drop offset).take 4) < 2 ^ 32 := bound
  rw [wordAt, UInt32.toNat_ofNat', Nat.mod_eq_of_lt fits, ByteOrder.decode_eq_ofDigits,
    bytes.window_four within]
  cases order with
  | little =>
      simp only [List.map_cons, List.map_nil, Nat.ofDigits_cons, Nat.ofDigits_nil]
      omega
  | big =>
      simp only [List.map_cons, List.map_nil, List.reverse_cons, List.reverse_nil, List.nil_append,
        List.cons_append, Nat.ofDigits_cons, Nat.ofDigits_nil]
      omega

theorem Bytes.wordAt_append_of_le (order : ByteOrder) (front back : Bytes) {offset : Nat}
    (within : offset + 4 ≤ front.length) :
    wordAt order (front ++ back) offset = wordAt order front offset := by
  have window := window_append [] front back within
  rw [List.nil_append, List.length_nil, Nat.zero_add] at window
  rw [wordAt, window, wordAt]

theorem Bytes.wordAt_append_add (order : ByteOrder) (front back : Bytes) (offset : Nat) :
    wordAt order (front ++ back) (front.length + offset) = wordAt order back offset := by
  rw [wordAt, wordAt, ← List.drop_drop, List.drop_left]

theorem Bytes.wordAt_encode_append (order : ByteOrder) (word : UInt32) (back : Bytes) :
    wordAt order (order.encode 4 word.toNat ++ back) 0 = word := by
  have bound : word.toNat < 256 ^ 4 := word.toNat_lt
  rw [wordAt, List.drop_zero, List.take_left' (order.length_encode 4 _), ByteOrder.decode_encode,
    Nat.mod_eq_of_lt bound, UInt32.ofNat_toNat]

namespace Contract

variable (order : ByteOrder) (bytes : Bytes)

theorem decode_eq (whole : bytes.length = 32) :
    (Record.decode order bytes : Except RecordFault Contract) =
      match Coded.ofCode? (bytes.wordAt order 0), Coded.ofCode? (bytes.wordAt order 20) with
      | none, _ => .error (.invalidField "option_kind" (bytes.wordAt order 0))
      | some _, none => .error (.invalidField "exercise" (bytes.wordAt order 20))
      | some kind, some exercise =>
        .ok {
          kind, exercise
          strike := bytes.wordAt order 4
          spot := bytes.wordAt order 8
          quantity := bytes.wordAt order 12
          barrier := bytes.wordAt order 16
          timeToExpiry := bytes.wordAt order 24
          volatility := bytes.wordAt order 28 } := by
  rw [Record.decode_eq, width_contract, if_pos whole]
  simp only [Record.layout, Layout.decode, Field.decode, Field.width, Shape.width, Bytes.wordAt,
    List.drop_zero, List.drop_drop]
  cases (Coded.ofCode? (UInt32.ofNat (order.decode (bytes.take 4))) : Option OptionKind) with
  | none => rfl
  | some kind =>
      cases (Coded.ofCode? (UInt32.ofNat (order.decode ((bytes.drop 20).take 4))) :
        Option ExerciseStyle) with
      | none => simp [Except.map]
      | some exercise =>
          simp [Except.map]
          rfl

def KnownCodes : Prop :=
  (bytes.wordAt order 0).toNat ≤ 3 ∧ (bytes.wordAt order 20).toNat ≤ 1

instance : Decidable (KnownCodes order bytes) := inferInstanceAs (Decidable (_ ∧ _))

theorem decode_of_knownCodes (whole : bytes.length = 32) (known : KnownCodes order bytes) :
    ∃ contract : Contract, Record.decode order bytes = .ok contract := by
  have kindKnown := mt (OptionKind.ofCode?_eq_none_iff _).mp (Nat.not_lt.mpr known.1)
  have exerciseKnown := mt (ExerciseStyle.ofCode?_eq_none_iff _).mp (Nat.not_lt.mpr known.2)
  obtain ⟨kind, kindCode⟩ := Option.ne_none_iff_exists'.mp kindKnown
  obtain ⟨exercise, exerciseCode⟩ := Option.ne_none_iff_exists'.mp exerciseKnown
  rw [decode_eq order bytes whole, kindCode, exerciseCode]
  exact ⟨_, rfl⟩

theorem decode_of_not_knownCodes (whole : bytes.length = 32)
    (unknown : ¬ KnownCodes order bytes) :
    ∃ field word, (Record.decode order bytes : Except RecordFault Contract) =
      .error (.invalidField field word) := by
  rw [decode_eq order bytes whole]
  cases kindCode : (Coded.ofCode? (bytes.wordAt order 0) : Option OptionKind) with
  | none => exact ⟨_, _, rfl⟩
  | some kind =>
      cases exerciseCode : (Coded.ofCode? (bytes.wordAt order 20) : Option ExerciseStyle) with
      | none => exact ⟨_, _, rfl⟩
      | some exercise =>
          have kindKnown : ¬ 3 < (bytes.wordAt order 0).toNat := by
            rw [← OptionKind.ofCode?_eq_none_iff, kindCode]
            exact Option.some_ne_none kind
          have exerciseKnown : ¬ 1 < (bytes.wordAt order 20).toNat := by
            rw [← ExerciseStyle.ofCode?_eq_none_iff, exerciseCode]
            exact Option.some_ne_none exercise
          exact absurd ⟨Nat.not_lt.mp kindKnown, Nat.not_lt.mp exerciseKnown⟩ unknown

end Contract

namespace Outcome

variable (order : ByteOrder)

theorem encode_eq (outcome : Outcome) :
    Record.encode order outcome =
      order.encode 8 outcome.payout.toNat ++
        (order.encode 4 (Coded.code outcome.moneyness).toNat ++
          (order.encode 4 (Coded.code outcome.barrierHit).toNat ++
            (order.encode 8 outcome.profitLoss.toNat ++
              (order.encode 4 (Coded.code outcome.pnlSign).toNat ++
                order.encode 4 (Coded.code outcome.earlyExercised).toNat)))) := by
  rw [Record.encode_eq]
  simp only [Record.layout, Record.toFields, Layout.encode, Field.encode, List.append_nil]

theorem take_encode (outcome : Outcome) :
    (Record.encode order outcome).take 16 =
      order.encode 8 outcome.payout.toNat ++
        (order.encode 4 (Coded.code outcome.moneyness).toNat ++
          order.encode 4 (Coded.code outcome.barrierHit).toNat) := by
  rw [encode_eq, ← List.append_assoc (order.encode 4 _), ← List.append_assoc]
  apply List.take_left'
  simp only [List.length_append, ByteOrder.length_encode]

theorem take_encode_eq_iff (first second : Outcome) :
    (Record.encode order first).take 16 = (Record.encode order second).take 16 ↔
      first.payout = second.payout ∧ first.moneyness = second.moneyness ∧
        first.barrierHit = second.barrierHit := by
  rw [take_encode, take_encode]
  constructor
  · intro same
    obtain ⟨payout, rest⟩ := List.append_inj same (by simp only [ByteOrder.length_encode])
    obtain ⟨moneyness, barrierHit⟩ := List.append_inj rest (by simp only [ByteOrder.length_encode])
    exact ⟨Field.encode_injective order ⟨"payout", .word64⟩ payout,
      Field.encode_injective order ⟨"moneyness", .choice Moneyness⟩ moneyness,
      Field.encode_injective order ⟨"barrier_hit", .choice Bool⟩ barrierHit⟩
  · rintro ⟨payout, moneyness, barrierHit⟩
    rw [payout, moneyness, barrierHit]

/-- The moneyness is the first choice in an outcome, so no other fault comes before it. -/
theorem decode_of_unknown_moneyness (bytes : Bytes) (whole : bytes.length = 32)
    (unknown : (Coded.ofCode? (bytes.wordAt order 8) : Option Moneyness) = none) :
    (Record.decode order bytes : Except RecordFault Outcome) =
      .error (.invalidField "moneyness" (bytes.wordAt order 8)) := by
  rw [Record.decode_eq, width_outcome, if_pos whole]
  rw [Bytes.wordAt] at unknown ⊢
  simp only [Record.layout, Layout.decode, Field.decode, Field.width, Shape.width, unknown]
  rfl

theorem wordAt_encode_moneyness (other : ByteOrder) (outcome : Outcome) :
    (Record.encode order outcome).wordAt other 8 =
      UInt32.ofNat (other.decode (order.encode 4 (Coded.code outcome.moneyness).toNat)) := by
  have payout := order.length_encode 8 outcome.payout.toNat
  have moneyness := order.length_encode 4 (Coded.code outcome.moneyness).toNat
  rw [Bytes.wordAt, encode_eq, List.drop_left' payout, List.take_left' moneyness]

end Outcome

theorem PurchaseRequest.encode_eq (order : ByteOrder) (request : PurchaseRequest) :
    Record.encode order request =
      request.optionId.toList ++ (request.buyerKey.toList ++
        (order.encode 8 request.quantity.toNat ++ (order.encode 8 request.premium.toNat ++
          (order.encode 8 request.strike.toNat ++ (order.encode 8 request.expiry.toNat ++
            ([request.kindCode] ++ (order.encode 8 request.spot.toNat ++
              order.encode 8 request.poolBalance.toNat))))))) := by
  rw [Record.encode_eq]
  simp only [Record.layout, Record.toFields, Layout.encode, Field.encode, List.append_nil]

theorem PurchaseRecord.encode_eq (order : ByteOrder) (record : PurchaseRecord) :
    Record.encode order record =
      record.purchaseId.toList ++ record.checksum.toList ++
        order.encode 8 record.maxPayout.toNat := by
  rw [Record.encode_eq]
  simp only [Record.layout, Record.toFields, Layout.encode, Field.encode, List.append_nil,
    List.append_assoc]

end OptionClearing
