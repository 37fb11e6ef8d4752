import ScalpBot.Bitstamp.Reply
import ScalpBot.Proofs.Market.Codec

/-!
# Messages are read again

`Bitstamp.Message.codec_faithful`: every type of message, of the market as well as of the exchange, has a
faithful codec. The balance and the rejection keep parts of what was read, whatever they are; all other
parts have types of their own.
-/

namespace ScalpBot.Bitstamp

open Json

variable {P : JsonNumber → Prop} {levels : Nat}

/-! ## Labels and texts -/

theorem decodeOption_optionalText (s : Option String) :
    decodeOption decodeString (optionalText s) = .ok s :=
  decodeOption_ofOption (fun _ _ => decodeString_string _) fun _ hnull => by cases hnull

theorem built_optionalText (s : Option String) : Built P levels (optionalText s) :=
  built_ofOption fun _ _ => .string _

namespace Label

/-- How a label is read and written. -/
def codec : Codec Label where
  decode := ofJson
  encode := toJson

/-- A number fits into 64 bits. -/
def InRange : Label → Prop
  | text _ => True
  | number n => n < 2 ^ 64

theorem gives_ofJson : Gives ofJson (fun _ => True) InRange := by
  intro v l _ h
  cases v with
  | string s =>
    cases h
    trivial
  | number n =>
    cases n with
    | integer n =>
      rw [ofJson] at h
      split at h
      · rename_i hfits
        cases h
        simp only [Bool.and_eq_true, decide_eq_true_eq] at hfits
        show n.toNat < 2 ^ 64
        omega
      · cases h
    | float x => cases h
  | _ => cases h

theorem ofJson_toJson {l : Label} (h : l.InRange) : ofJson l.toJson = .ok l := by
  cases l with
  | text s => rfl
  | number n =>
    have hfits : (decide (0 ≤ (n : Int)) && decide ((n : Int) < 2 ^ 64)) = true := by
      have hn : n < 2 ^ 64 := h
      simp only [Bool.and_eq_true, decide_eq_true_eq]
      omega
    rw [toJson, ofInt, ofJson, if_pos hfits, Int.toNat_natCast]

theorem toJson_ne_null (l : Label) : l.toJson ≠ .null := by
  cases l <;> exact fun hnull => by cases hnull

theorem built_toJson {l : Label} (h : l.InRange) : Built JsonNumber.ReadBack levels l.toJson := by
  cases l with
  | text s => exact .string s
  | number n =>
    have hn : n < 2 ^ 64 := h
    exact .number (JsonNumber.readBack_of_inRange ⟨by omega, by omega⟩)

theorem faithful : codec.Faithful :=
  Codec.faithful_of InRange gives_ofJson (fun _ => ofJson_toJson) fun _ => built_toJson

end Label

/-! ## Order books and prices -/

namespace BookLevel

/-- How a level is read and written. -/
def codec : Codec BookLevel where
  decode := ofJson
  encode := toJson

theorem ofJson_toJson (l : BookLevel) : ofJson l.toJson = .ok l := rfl

theorem decodeList_map (ls : List BookLevel) :
    decodeList ofJson (.array (ls.map (·.toJson))) = .ok ls :=
  Json.decodeList_map fun l _ => ofJson_toJson l

theorem built_toJson (l : BookLevel) : Built P (levels + 1) l.toJson := .array (by simp [Built.string])

theorem faithful : codec.Faithful :=
  Codec.faithful_of (fun _ => True) (fun _ _ _ _ => trivial) (fun l _ => ofJson_toJson l)
    fun l _ => built_toJson l

end BookLevel

namespace OrderBookReply

/-- How an order book is read and written. -/
def codec : Codec OrderBookReply where
  decode := ofJson
  encode := toJson

theorem makes (r : OrderBookReply) : fields.Makes [("timestamp", .string r.timestamp),
    ("microtimestamp", optionalText r.microtimestamp), ("bids", .array (r.bids.map (·.toJson))),
    ("asks", .array (r.asks.map (·.toJson)))] r :=
  (Fields.makes_start OrderBookReply.mk)
    |>.required "timestamp" (decodeString_string r.timestamp)
    |>.withDefault "microtimestamp" none (decodeOption_optionalText r.microtimestamp)
    |>.withDefault "bids" [] (BookLevel.decodeList_map r.bids)
    |>.withDefault "asks" [] (BookLevel.decodeList_map r.asks)

theorem ofJson_toJson (r : OrderBookReply) : ofJson r.toJson = .ok r :=
  decodeRecord_ofMembers "OrderBookResponse" (makes r) (by decide)

theorem built_toJson (r : OrderBookReply) : Built P 3 r.toJson := by
  have hlevels : ∀ ls : List BookLevel, Built P 2 (.array (ls.map (·.toJson))) := fun ls =>
    .array (by simp [BookLevel.built_toJson])
  exact built_ofMembers (by simp [Built.string, built_optionalText, hlevels])

theorem faithful : codec.Faithful :=
  Codec.faithful_of (fun _ => True) (fun _ _ _ _ => trivial) (fun r _ => ofJson_toJson r)
    fun r _ => built_toJson r

end OrderBookReply

namespace TickerReply

/-- How a ticker is read and written. -/
def codec : Codec TickerReply where
  decode := ofJson
  encode := toJson

theorem makes (r : TickerReply) : fields.Makes [("last", .string r.last), ("bid", optionalText r.bid),
    ("ask", optionalText r.ask), ("timestamp", optionalText r.timestamp)] r :=
  (Fields.makes_start TickerReply.mk)
    |>.required "last" (decodeString_string r.last)
    |>.withDefault "bid" none (decodeOption_optionalText r.bid)
    |>.withDefault "ask" none (decodeOption_optionalText r.ask)
    |>.withDefault "timestamp" none (decodeOption_optionalText r.timestamp)

theorem ofJson_toJson (r : TickerReply) : ofJson r.toJson = .ok r :=
  decodeRecord_ofMembers "TickerResponse" (makes r) (by decide)

theorem faithful : codec.Faithful :=
  Codec.faithful_of (fun _ => True) (fun _ _ _ _ => trivial) (fun r _ => ofJson_toJson r)
    fun r _ => built_ofMembers (by simp [Built.string, built_optionalText])

end TickerReply

/-! ## Orders -/

namespace OpenOrderReply

/-- How an open order is read and written. -/
def codec : Codec OpenOrderReply where
  decode := ofJson
  encode := toJson

/-- Its labels fit. -/
structure InRange (r : OpenOrderReply) : Prop where
  id : r.id.InRange
  orderType : r.orderType.InRange

theorem gives : fields.Gives (fun _ => True) InRange := by
  have hfields := (Fields.gives_start OpenOrderReply.mk)
    |>.field (Field.gives_required "id" Label.gives_ofJson)
    |>.any (.required "datetime" decodeString)
    |>.field (Field.gives_required "type" Label.gives_ofJson)
    |>.any (.required "price" decodeString)
    |>.any (.required "amount" decodeString)
    |>.any (.optional format "currency_pair" decodeString)
  refine hfields.imp ?_
  rintro r ⟨_, pair, ⟨_, amount, ⟨_, price, ⟨_, type, ⟨_, datetime, ⟨_, id, rfl, hid, rfl⟩, rfl⟩,
    htype, rfl⟩, rfl⟩, rfl⟩, rfl⟩
  exact ⟨hid, htype⟩

theorem makes {r : OpenOrderReply} (h : r.InRange) : fields.Makes [("id", r.id.toJson),
    ("datetime", .string r.datetime), ("type", r.orderType.toJson), ("price", .string r.price),
    ("amount", .string r.amount), ("currency_pair", optionalText r.currencyPair)] r :=
  (Fields.makes_start OpenOrderReply.mk)
    |>.required "id" (Label.ofJson_toJson h.id)
    |>.required "datetime" (decodeString_string r.datetime)
    |>.required "type" (Label.ofJson_toJson h.orderType)
    |>.required "price" (decodeString_string r.price)
    |>.required "amount" (decodeString_string r.amount)
    |>.withDefault "currency_pair" none (decodeOption_optionalText r.currencyPair)

theorem faithful : codec.Faithful :=
  Codec.faithful_of InRange
    (fun v r _ => gives_decodeRecord "OpenOrderResponse" gives v r fun _ _ => trivial)
    (fun r h => decodeRecord_ofMembers "OpenOrderResponse" (makes h) (by decide))
    fun r h => built_ofMembers (by
      simp [Built.string, built_optionalText, Label.built_toJson h.id, Label.built_toJson h.orderType])

end OpenOrderReply

namespace OrderReply

/-- How an order is read and written. -/
def codec : Codec OrderReply where
  decode := ofJson
  encode := toJson

/-- Its labels fit. -/
structure InRange (r : OrderReply) : Prop where
  id : r.id.InRange
  orderType : ∀ l, r.orderType = some l → l.InRange

theorem gives : fields.Gives (fun _ => True) InRange := by
  have hfields := (Fields.gives_start OrderReply.mk)
    |>.field (Field.gives_required "id" Label.gives_ofJson)
    |>.any (.optional format "datetime" decodeString)
    |>.field (gives_optional "type" Label.gives_ofJson)
    |>.any (.optional format "price" decodeString)
    |>.any (.optional format "amount" decodeString)
  refine hfields.imp ?_
  rintro r ⟨_, amount, ⟨_, price, ⟨_, type, ⟨_, datetime, ⟨_, id, rfl, hid, rfl⟩, rfl⟩, htype, rfl⟩,
    rfl⟩, rfl⟩
  exact ⟨hid, htype⟩

theorem makes {r : OrderReply} (h : r.InRange) : fields.Makes [("id", r.id.toJson),
    ("datetime", optionalText r.datetime), ("type", .ofOption Label.toJson r.orderType),
    ("price", optionalText r.price), ("amount", optionalText r.amount)] r :=
  (Fields.makes_start OrderReply.mk)
    |>.required "id" (Label.ofJson_toJson h.id)
    |>.withDefault "datetime" none (decodeOption_optionalText r.datetime)
    |>.withDefault "type" none (decodeOption_ofOption (fun l hl => Label.ofJson_toJson (h.orderType l hl))
      Label.toJson_ne_null)
    |>.withDefault "price" none (decodeOption_optionalText r.price)
    |>.withDefault "amount" none (decodeOption_optionalText r.amount)

theorem faithful : codec.Faithful :=
  Codec.faithful_of InRange
    (fun v r _ => gives_decodeRecord "OrderResponse" gives v r fun _ _ => trivial)
    (fun r h => decodeRecord_ofMembers "OrderResponse" (makes h) (by decide))
    fun r h => by
      have htype : Built JsonNumber.ReadBack 2 (.ofOption Label.toJson r.orderType) :=
        built_ofOption fun l hl => Label.built_toJson (h.orderType l hl)
      exact built_ofMembers (by simp [built_optionalText, Label.built_toJson h.id, htype])

end OrderReply

/-! ## Balances -/

namespace BalanceReply

/-- How a balance is read and written. All members but the fee are kept as they are. -/
def codec : Codec BalanceReply where
  decode := ofJson
  encode := toJson
  free r := r.other.map (·.2)

/-- The members other than the fee stand in order. -/
structure InOrder (r : BalanceReply) : Prop where
  ordered : Ordered r.other
  noFee : ∀ m ∈ r.other, m.1 ≠ "fee"

theorem exists_of_ofJson {v : Json} {r : BalanceReply} (h : ofJson v = .ok r) :
    ∃ members, v = .object members ∧ r.other = members.filter (·.1 ≠ "fee") := by
  cases v with
  | object members =>
    simp only [ofJson] at h
    split at h
    · obtain ⟨fee, -, ⟨⟩⟩ := bind_eq_ok_iff.mp h
      exact ⟨members, rfl, rfl⟩
    · cases h
      exact ⟨members, rfl, rfl⟩
  | _ => cases h

theorem inOrder_of_ofJson {v : Json} {r : BalanceReply} (hkeyed : Keyed v) (h : ofJson v = .ok r) :
    r.InOrder := by
  obtain ⟨members, rfl, hother⟩ := exists_of_ofJson h
  constructor
  · rw [hother]
    exact (hkeyed members rfl).filter _
  · intro m hm
    rw [hother] at hm
    simpa using (List.mem_filter.mp hm).2

theorem ofJson_toJson {r : BalanceReply} (h : r.InOrder) : ofJson r.toJson = .ok r := by
  have hkeys : ((("fee", optionalText r.fee) :: r.other).map (·.1)).Nodup := by
    refine List.nodup_cons.mpr ⟨fun hfee => ?_, h.ordered.nodup_keys⟩
    obtain ⟨m, hm, hkey⟩ := List.mem_map.mp hfee
    exact h.noFee m hm hkey
  obtain ⟨members, hmembers⟩ : ∃ members, members =
      (("fee", optionalText r.fee) :: r.other).foldl (fun acc m => insertMember m.1 m.2 acc) [] :=
    ⟨_, rfl⟩
  have hordered : Ordered members := hmembers ▸ ordered_foldl_insertMember .nil _
  have hfee : members.lookup "fee" = some (optionalText r.fee) :=
    (lookup_eq_some_iff_mem hordered).mpr
      (hmembers ▸ mem_foldl_insertMember_of_nodup hkeys List.mem_cons_self)
  have hother : members.filter (·.1 ≠ "fee") = r.other := by
    refine Ordered.eq_of_mem_iff (hordered.filter _) h.ordered fun m => ?_
    rw [List.mem_filter, decide_eq_true_eq]
    constructor
    · rintro ⟨hm, hne⟩
      rcases mem_of_mem_foldl_insertMember (hmembers ▸ hm) with hm | hm
      · cases hm
      · rcases List.mem_cons.mp hm with rfl | hm
        · exact absurd rfl hne
        · exact hm
    · intro hm
      exact ⟨hmembers ▸ mem_foldl_insertMember_of_nodup hkeys (List.mem_cons_of_mem _ hm), h.noFee m hm⟩
  have hread : ofJson (.object members) = .ok r := by
    rw [ofJson, hfee, hother]
    simp only [decodeOption_optionalText]
    rfl
  rwa [hmembers] at hread

theorem faithful : codec.Faithful where
  decode_encode hkeyed h := ofJson_toJson (inOrder_of_ofJson hkeyed h)
  built_encode {v r} hbuilt h hfree := by
    obtain ⟨members, rfl, hother⟩ := exists_of_ofJson h
    have hparts : ∀ m ∈ members, Built JsonNumber.InRange 126 m.2 := fun m hm =>
      hbuilt.part m.2 (List.mem_map.mpr ⟨m, hm, rfl⟩)
    have hmembers : ∀ m ∈ ("fee", optionalText r.fee) :: r.other, Built JsonNumber.ReadBack 126 m.2 := by
      refine List.forall_mem_cons.mpr ⟨built_optionalText r.fee, fun m hm => ?_⟩
      refine Built.readBack (hparts m ?_) (hfree m.2 (List.mem_map.mpr ⟨m, hm, rfl⟩))
      rw [hother] at hm
      exact (List.mem_filter.mp hm).1
    exact built_ofMembers hmembers

end BalanceReply

/-! ## Rejections -/

namespace ErrorReply

/-- How a rejection is read and written. The reason is kept as it is. -/
def codec : Codec ErrorReply where
  decode := ofJson
  encode := toJson
  free r := [r.reason]

theorem gives {C : Json → Prop} (hnull : C .null) : fields.Gives C fun r => C r.reason := by
  have hreason : Gives (Except.ok : Decoder Json) C C := fun _ _ hv hread => Except.ok.inj hread ▸ hv
  have hfields := (Fields.gives_start ErrorReply.mk)
    |>.any (.required "status" decodeString)
    |>.field (Field.gives_withDefault "reason" hreason hnull)
    |>.any (.optional format "code" decodeString)
  refine hfields.imp ?_
  rintro r ⟨_, code, ⟨_, reason, ⟨_, status, rfl, rfl⟩, hreason, rfl⟩, rfl⟩
  exact hreason

theorem makes (r : ErrorReply) : fields.Makes [("status", .string r.status), ("reason", r.reason),
    ("code", optionalText r.code)] r :=
  (Fields.makes_start ErrorReply.mk)
    |>.required "status" (decodeString_string r.status)
    |>.withDefault "reason" .null (rfl : Except.ok r.reason = .ok r.reason)
    |>.withDefault "code" none (decodeOption_optionalText r.code)

theorem ofJson_toJson (r : ErrorReply) : ofJson r.toJson = .ok r :=
  decodeRecord_ofMembers "ErrorResponse" (makes r) (by decide)

theorem faithful : codec.Faithful where
  decode_encode _ _ := ofJson_toJson _
  built_encode {v r} hbuilt h hfree := by
    have hreason : Built JsonNumber.InRange 126 r.reason :=
      gives_decodeRecord "ErrorResponse" (gives .null) v r hbuilt.part h
    have hback := hreason.readBack (hfree r.reason List.mem_cons_self)
    have hmembers : ∀ m ∈ [("status", .string r.status), ("reason", r.reason),
        ("code", optionalText r.code)], Built JsonNumber.ReadBack 126 m.2 := by
      simp [Built.string, hback, built_optionalText]
    exact built_ofMembers hmembers

end ErrorReply

/-! ## All messages -/

/-- The types of messages: six of the market, eight of the exchange. -/
inductive Message where
  | market
  | side
  | orderId
  | priceLevel
  | orderBook
  | openOrder
  | label
  | bookLevel
  | orderBookReply
  | tickerReply
  | openOrderReply
  | orderReply
  | balanceReply
  | errorReply

namespace Message

/-- The values of a type of message. -/
def Value : Message → Type
  | market => Market
  | side => Side
  | orderId => OrderId
  | priceLevel => PriceLevel
  | orderBook => OrderBook
  | openOrder => OpenOrder
  | label => Label
  | bookLevel => BookLevel
  | orderBookReply => OrderBookReply
  | tickerReply => TickerReply
  | openOrderReply => OpenOrderReply
  | orderReply => OrderReply
  | balanceReply => BalanceReply
  | errorReply => ErrorReply

/-- How a message is read and written, and which of its parts are kept as they are. -/
def codec : (m : Message) → Codec m.Value
  | market => Market.codec
  | side => Side.codec
  | orderId => OrderId.codec
  | priceLevel => PriceLevel.codec
  | orderBook => OrderBook.codec
  | openOrder => OpenOrder.codec
  | label => Label.codec
  | bookLevel => BookLevel.codec
  | orderBookReply => OrderBookReply.codec
  | tickerReply => TickerReply.codec
  | openOrderReply => OpenOrderReply.codec
  | orderReply => OrderReply.codec
  | balanceReply => BalanceReply.codec
  | errorReply => ErrorReply.codec

theorem codec_faithful (m : Message) : m.codec.Faithful := by
  cases m with
  | market => exact Market.faithful
  | side => exact Side.faithful
  | orderId => exact OrderId.faithful
  | priceLevel => exact PriceLevel.faithful
  | orderBook => exact OrderBook.faithful
  | openOrder => exact OpenOrder.faithful
  | label => exact Label.faithful
  | bookLevel => exact BookLevel.faithful
  | orderBookReply => exact OrderBookReply.faithful
  | tickerReply => exact TickerReply.faithful
  | openOrderReply => exact OpenOrderReply.faithful
  | orderReply => exact OrderReply.faithful
  | balanceReply => exact BalanceReply.faithful
  | errorReply => exact ErrorReply.faithful

/-- **A message that was read and written is read again as the same message**: as a value always, and as a
text if the floats in the parts that it keeps as they are can be read back. -/
theorem read_again (m : Message) :
    (∀ v x, Keyed v → m.codec.decode v = .ok x → m.codec.decode (m.codec.encode x) = .ok x) ∧
      ∀ text x, decodeText m.codec.decode text = .ok x →
        (∀ part ∈ m.codec.free x, FloatsReadBack part) →
        decodeText m.codec.decode (m.codec.encode x).toText = .ok x :=
  ⟨fun _ _ hkeyed h => m.codec_faithful.decode_encode hkeyed h,
    fun _ _ h hfree => m.codec_faithful.decodeText_toText h hfree⟩

/-- An order in list form, with a number for a decimal, a leap second and an offset. -/
def listedOrder : Json :=
  .array [.string "7", .string "ltcbtc", .string "BUY", .string "0.0050", .number (.integer 3),
    .string "2016-12-31 23:59:60.5-00:30"]

/-- A rejection in list form, whose reason holds a float that is read back. -/
def listedRejection : String := "[\"error\", \x7b\"b\": 0.5, \"a\": 7\x7d, null]"

/-- The text that is written of it. -/
def writtenRejection : String :=
  "\x7b\"code\":null,\"reason\":\x7b\"a\":7,\"b\":0.5\x7d,\"status\":\"error\"\x7d"

theorem read_again_sample :
    (∃ x, OpenOrder.ofJson listedOrder = .ok x ∧ OpenOrder.ofJson x.toJson = .ok x) ∧
      ∃ x, decodeText ErrorReply.ofJson listedRejection = .ok x ∧ FloatsReadBack x.reason ∧
        x.toJson.toText = writtenRejection ∧ decodeText ErrorReply.ofJson writtenRejection = .ok x := by
  constructor
  · have hread : (OpenOrder.ofJson listedOrder).toOption.any (fun _ => true) = true := by decide +kernel
    obtain ⟨x, hx, -⟩ := exists_eq_ok_of_any hread
    have hkeyed : Keyed listedOrder := fun _ hobject => by cases hobject
    exact ⟨x, hx, (read_again openOrder).1 listedOrder x hkeyed hx⟩
  · have hread : (decodeText ErrorReply.ofJson listedRejection).toOption.any (fun x : ErrorReply =>
        decide (FloatsReadBack x.reason) && x.toJson.toText = writtenRejection) = true := by
      decide +kernel
    obtain ⟨x, hx, hwritten⟩ := exists_eq_ok_of_any hread
    simp only [Bool.and_eq_true, decide_eq_true_eq] at hwritten
    have hfree : ∀ part ∈ [x.reason], FloatsReadBack part := List.forall_mem_singleton.mpr hwritten.1
    have hagain := (read_again errorReply).2 listedRejection x hx hfree
    exact ⟨x, hx, hwritten.1, hwritten.2, hwritten.2 ▸ hagain⟩

/-! ### Integers beyond 64 bits -/

/-- Whether a number has no fraction. -/
def isWhole : JsonNumber → Bool
  | .integer _ => true
  | .float (.finite _ significand exponent) => 0 ≤ exponent || significand % 2 ^ (-exponent).toNat = 0
  | .float _ => false

/-- A rejection whose reason is a whole number of 79 bits. -/
def wholeRejection : String := "\x7b\"status\":\"error\",\"reason\":300000000000000000000000\x7d"

/-- The text that is written of it. -/
def writtenWholeRejection : String := "\x7b\"code\":null,\"reason\":3e+23,\"status\":\"error\"\x7d"

/-- It is read again as another one. -/
theorem whole_reason_not_read_again : ∃ x y, decodeText ErrorReply.ofJson wholeRejection = .ok x ∧
    (∀ n ∈ x.reason.numbers, isWhole n = true) ∧ x.toJson.toText = writtenWholeRejection ∧
      decodeText ErrorReply.ofJson writtenWholeRejection = .ok y ∧ y ≠ x := by
  have hfirst : (decodeText ErrorReply.ofJson wholeRejection).toOption.any (fun x : ErrorReply =>
      decide (∀ n ∈ x.reason.numbers, isWhole n = true) && x.toJson.toText = writtenWholeRejection) =
      true := by decide +kernel
  have hsecond : (decodeText ErrorReply.ofJson writtenWholeRejection).toOption.any (fun y : ErrorReply =>
      y.toJson.toText ≠ writtenWholeRejection) = true := by decide +kernel
  obtain ⟨x, hx, hwritten⟩ := exists_eq_ok_of_any hfirst
  obtain ⟨y, hy, hother⟩ := exists_eq_ok_of_any hsecond
  simp only [Bool.and_eq_true, decide_eq_true_eq] at hwritten hother
  refine ⟨x, y, hx, hwritten.1, hwritten.2, hy, ?_⟩
  rintro rfl
  exact hother hwritten.2

end Message

end ScalpBot.Bitstamp
