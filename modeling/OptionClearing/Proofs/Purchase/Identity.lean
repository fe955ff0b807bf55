import OptionClearing.Proofs.Host.Answer
import OptionClearing.Proofs.Purchase.Validation
import OptionClearing.Proofs.Record.Bytewise

/-!
Purchase ids: eight bytes of a request, among them the low half of the expiry, which is turned to
have its most significant byte first.
-/

namespace OptionClearing

namespace Bytes

theorem map_range'_getElem? (bytes : Bytes) {offset width : Nat}
    (within : offset + width ≤ bytes.length) :
    (List.range' offset width).map (bytes[·]?) = ((bytes.drop offset).take width).map some := by
  apply List.ext_getElem
  · simp only [List.length_map, List.length_range', List.length_take, List.length_drop]
    omega
  · intro index left right
    have inside : offset + index < bytes.length := by
      simp only [List.length_map, List.length_range'] at left
      omega
    simp [inside]

end Bytes

namespace PurchaseRequest

theorem toList_purchaseId (request : PurchaseRequest) :
    request.purchaseId.toList = request.optionId.toList.take 2 ++ request.buyerKey.toList.take 2 ++
      ByteOrder.big.encode 4 request.expiry.toNat := by
  simp only [purchaseId, Vector.toList_mk, Amount.toNat_lowHalf,
    ByteOrder.encode_lowHalf]

section Encoded

variable (order : ByteOrder) (request : PurchaseRequest)

theorem optionId_window :
    (Record.encode order request).take 2 = request.optionId.toList.take 2 := by
  have length : request.optionId.toList.length = 6 := Vector.length_toList
  rw [encode_eq, List.take_append_of_le_length (by omega)]

theorem buyerKey_window :
    ((Record.encode order request).drop 6).take 2 = request.buyerKey.toList.take 2 := by
  have front : request.optionId.toList.length = 6 := Vector.length_toList
  have length : request.buyerKey.toList.length = 33 := Vector.length_toList
  rw [encode_eq, List.drop_left' front, List.take_append_of_le_length (by omega)]

theorem expiry_window :
    ((Record.encode order request).drop (63 + order.lowHalfOffset)).take 4 =
      order.encode 4 request.expiry.toNat := by
  let front := request.optionId.toList ++ (request.buyerKey.toList ++
    (order.encode 8 request.quantity.toNat ++ (order.encode 8 request.premium.toNat ++
      order.encode 8 request.strike.toNat)))
  let back := [request.kindCode] ++ (order.encode 8 request.spot.toNat ++
    order.encode 8 request.poolBalance.toNat)
  have split : Record.encode order request =
      front ++ (order.encode 8 request.expiry.toNat ++ back) := by
    rw [encode_eq]
    simp only [front, back, List.append_assoc]
  -- two fixed strings and three words stand in front of the expiry
  have before : front.length = 63 := by
    simp only [front, List.length_append, Vector.length_toList, ByteOrder.length_encode]
    rfl
  have within : order.lowHalfOffset + 4 ≤ (order.encode 8 request.expiry.toNat).length := by
    rw [ByteOrder.length_encode]
    cases order <;> decide
  rw [split, ← before, Bytes.window_append _ _ _ within, ByteOrder.lowHalf_window]

theorem toList_purchaseId_eq_windows :
    request.purchaseId.toList =
      (Record.encode order request).take 2 ++ ((Record.encode order request).drop 6).take 2 ++
        ByteOrder.big.arrange (order.arrange
          (((Record.encode order request).drop (63 + order.lowHalfOffset)).take 4)) := by
  rw [toList_purchaseId, optionId_window, buyerKey_window, expiry_window,
    ← order.encode_eq_arrange]

end Encoded

def idPositions : ByteOrder → List Nat
  | .little => [0, 1, 6, 7, 66, 65, 64, 63]
  | .big => [0, 1, 6, 7, 67, 68, 69, 70]

theorem map_idPositions (order : ByteOrder) (bytes : Bytes) (whole : bytes.length = 88) :
    (idPositions order).map (bytes[·]?) =
      (bytes.take 2 ++ (bytes.drop 6).take 2 ++ ByteOrder.big.arrange (order.arrange
        ((bytes.drop (63 + order.lowHalfOffset)).take 4))).map some := by
  have option := bytes.map_range'_getElem? (show 0 + 2 ≤ bytes.length by omega)
  have buyer := bytes.map_range'_getElem? (show 6 + 2 ≤ bytes.length by omega)
  cases order with
  | little =>
      have expiry := bytes.map_range'_getElem? (show 63 + 4 ≤ bytes.length by omega)
      change (List.range' 0 2 ++ List.range' 6 2 ++ (List.range' 63 4).reverse).map _ = _
      rw [List.map_append, List.map_append, List.map_reverse, option, buyer, expiry]
      simp [ByteOrder.arrange, ByteOrder.lowHalfOffset]
  | big =>
      have expiry := bytes.map_range'_getElem? (show 67 + 4 ≤ bytes.length by omega)
      change (List.range' 0 2 ++ List.range' 6 2 ++ List.range' 67 4).map _ = _
      rw [List.map_append, List.map_append, option, buyer, expiry]
      simp [ByteOrder.arrange, ByteOrder.lowHalfOffset]

theorem map_toList_purchaseId (order : ByteOrder) (bytes : Bytes) (request : PurchaseRequest)
    (read : Record.decode order bytes = .ok request) :
    request.purchaseId.toList.map some = (idPositions order).map (bytes[·]?) := by
  have whole := Record.length_of_decode order bytes request read
  have canonical := Record.encode_decode order bytes request read
  rw [map_idPositions order bytes whole, toList_purchaseId_eq_windows order, canonical]

theorem purchaseId_eq_iff_positions (order : ByteOrder) (first second : Bytes)
    (request other : PurchaseRequest) (read : Record.decode order first = .ok request)
    (reread : Record.decode order second = .ok other) :
    request.purchaseId = other.purchaseId ↔
      ∀ position ∈ idPositions order, first[position]? = second[position]? := by
  rw [← List.map_inj_left, ← map_toList_purchaseId order first request read,
    ← map_toList_purchaseId order second other reread, List.map_inj_right (by simp),
    Vector.toList_inj]

theorem take_two_toList {width : Nat} (bytes : Vector UInt8 width) (long : 2 ≤ width) :
    bytes.toList.take 2 = [bytes[0], bytes[1]] := by
  apply List.ext_getElem
  · simp only [List.length_take, Vector.length_toList, List.length_cons, List.length_nil]
    omega
  · intro index left right
    match index, right with
    | 0, _ => simp
    | 1, _ => simp

theorem purchaseId_eq_iff (request other : PurchaseRequest) :
    request.purchaseId = other.purchaseId ↔
      request.optionId[0] = other.optionId[0] ∧ request.optionId[1] = other.optionId[1] ∧
        request.buyerKey[0] = other.buyerKey[0] ∧ request.buyerKey[1] = other.buyerKey[1] ∧
        request.expiry.toNat % 2 ^ 32 = other.expiry.toNat % 2 ^ 32 := by
  have expiries : ByteOrder.big.encode 4 request.expiry.toNat =
      ByteOrder.big.encode 4 other.expiry.toNat ↔
        request.expiry.toNat % 2 ^ 32 = other.expiry.toNat % 2 ^ 32 :=
    ByteOrder.big.encode_eq_iff 4 _ _
  rw [← Vector.toList_inj, toList_purchaseId, toList_purchaseId, take_two_toList _ (by decide),
    take_two_toList _ (by decide), take_two_toList _ (by decide), take_two_toList _ (by decide)]
  simp only [List.cons_append, List.nil_append, List.cons.injEq, expiries]

end PurchaseRequest

namespace Validator

theorem output_take_purchaseId (validator : Validator) (host : BufferHost) (record : PurchaseRecord)
    (room : 48 ≤ host.buffer.length)
    (accepted : validator.validateBytes host.input = .ok record) :
    (Host.purchase host validator).2.output.take 8 = record.purchaseId.toList := by
  have answered := (validator.answer_eq_ok_iff host.input record).mpr accepted
  have size := Record.length_encode validator.order record
  have length : record.purchaseId.toList.length = 8 := Vector.length_toList
  rw [Host.purchase_eq_finish]
  change (Host.finish host (Record.answerBytes _ (validator.answer host.input)) _).2.output.take 8 = _
  rw [answered, Record.answerBytes, host.output_finish _ _ (by rw [size]; exact room),
    PurchaseRecord.encode_eq, List.append_assoc, List.take_left' length]

end Validator

namespace PurchaseRequest

/-- Requests of the right length share their id exactly when they share the eight bytes in which it
shows, and the record of an accepted one starts with it. -/
theorem purchaseId_shows_eight_bytes :
    (∀ (order : ByteOrder) (first second : Bytes), first.length = 88 → second.length = 88 →
      ∃ request other : PurchaseRequest, Record.decode order first = .ok request ∧
        Record.decode order second = .ok other ∧
        (request.purchaseId = other.purchaseId ↔
          ∀ position ∈ idPositions order, first[position]? = second[position]?)) ∧
    (∀ (validator : Validator) (host : BufferHost) (record : PurchaseRecord),
      48 ≤ host.buffer.length → validator.validateBytes host.input = .ok record →
        ∃ request : PurchaseRequest, Record.decode validator.order host.input = .ok request ∧
          (Host.purchase host validator).2.output.take 8 = record.purchaseId.toList ∧
          record.purchaseId.toList = host.input.take 2 ++ (host.input.drop 6).take 2 ++
            ByteOrder.big.encode 4 (request.expiry.toNat % 2 ^ 32)) ∧
    (∀ request other : PurchaseRequest, request.purchaseId = other.purchaseId ↔
      request.optionId[0] = other.optionId[0] ∧ request.optionId[1] = other.optionId[1] ∧
        request.buyerKey[0] = other.buyerKey[0] ∧ request.buyerKey[1] = other.buyerKey[1] ∧
        request.expiry.toNat % 2 ^ 32 = other.expiry.toNat % 2 ^ 32) := by
  refine ⟨?raw, ?written, purchaseId_eq_iff⟩
  case raw =>
    intro order first second firstWhole secondWhole
    obtain ⟨request, read⟩ := decode_of_length order first firstWhole
    obtain ⟨other, reread⟩ := decode_of_length order second secondWhole
    refine ⟨request, other, read, reread, ?_⟩
    exact purchaseId_eq_iff_positions order first second request other read reread
  case written =>
    intro validator host record room accepted
    obtain ⟨request, bound, read, _, same⟩ :=
      (validator.validateBytes_eq_ok_iff host.input record).mp accepted
    have canonical := Record.encode_decode validator.order host.input request read
    refine ⟨request, read, validator.output_take_purchaseId host record room accepted, ?_⟩
    rw [same, toList_purchaseId, ← optionId_window validator.order,
      ← buyerKey_window validator.order, canonical, ByteOrder.encode_lowHalf]

/-- The covered call at another strike, with an expiry that differs above its low half only. -/
def laterCall : PurchaseRequest :=
  { Validator.coveredCall with strike := 7, expiry := 0x10000002a }

theorem laterCall_shares_id :
    let covered := Record.encode .big Validator.coveredCall
    let later := Record.encode .big laterCall
    let host := BufferHost.start (Record.encode .little Validator.coveredCall) (List.replicate 48 0)
    (covered.length = 88 ∧ later.length = 88 ∧ covered ≠ later ∧
      ∃ request other : PurchaseRequest, Record.decode .big covered = .ok request ∧
        Record.decode .big later = .ok other ∧ request.purchaseId = other.purchaseId) ∧
    (48 ≤ host.buffer.length ∧
      Validator.standard.validateBytes host.input = .ok Validator.coveredRecord ∧
      (Host.purchase host .standard).2.output.take 8 = [7, 7, 2, 2, 0, 0, 0, 42]) := by
  intro covered later host
  obtain ⟨raw, written, _⟩ := purchaseId_shows_eight_bytes
  have coveredWhole : covered.length = 88 := Record.length_encode .big Validator.coveredCall
  have laterWhole : later.length = 88 := Record.length_encode .big laterCall
  have accepted : Validator.standard.validateBytes host.input = .ok Validator.coveredRecord :=
    Validator.validateBytes_coveredCall
  obtain ⟨request, other, read, reread, same⟩ := raw .big covered later coveredWhole laterWhole
  obtain ⟨_, _, output, _⟩ := written .standard host Validator.coveredRecord (by decide) accepted
  refine ⟨⟨coveredWhole, laterWhole, by decide +kernel, request, other, read, reread, ?_⟩,
    by decide, accepted, output⟩
  exact same.mpr (by decide +kernel)

end PurchaseRequest

end OptionClearing
