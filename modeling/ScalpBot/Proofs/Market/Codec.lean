import ScalpBot.Market.Json
import ScalpBot.Proofs.Decimal.Text
import ScalpBot.Proofs.Time.Text
import ScalpBot.Proofs.Json.Codec

/-!
# Markets and orders are read again

The types of a market have faithful codecs: a decimal keeps its places, an instant stays the same whatever
offset it was given with, and a record is the same whether it was read from an object or from a list.
-/

namespace ScalpBot

open Json

variable {P : JsonNumber → Prop} {levels : Nat}

/-! ## Decimals and instants -/

theorem Decimal.ofJson_toJson (a : Decimal) : Decimal.ofJson a.toJson = .ok a := by
  simp only [Decimal.ofJson, Decimal.toJson, Decimal.parse_toText]

theorem Decimal.built_toJson (a : Decimal) : Built P levels a.toJson := .string _

theorem Instant.ofJson_toJson {t : Instant} (h : t.InCalendar) : Instant.ofJson t.toJson = .ok t := by
  simp only [Instant.ofJson, Instant.toJson, Instant.parse_toText h]

/-- An instant that was read stands in the calendar. -/
theorem Instant.gives_ofJson : Gives Instant.ofJson (fun _ => True) Instant.InCalendar := by
  intro v t _ h
  cases v with
  | string s =>
    simp only [Instant.ofJson] at h
    split at h
    · cases h
      exact Instant.inCalendar_of_parse ‹_›
    · cases h
  | _ => cases h

theorem Instant.built_toJson (t : Instant) : Built P levels t.toJson := .string _

/-! ## Markets -/

namespace Market

/-- How a market is read and written. -/
def codec : Codec Market where
  decode := read format
  encode := toJson

theorem makes (m : Market) : (fields format).Makes [("id", .string m.id), ("name", .string m.name),
    ("base_currency", .string m.baseCurrency), ("counter_currency", .string m.counterCurrency)] m :=
  (Fields.makes_start Market.mk)
    |>.required "id" (decodeString_string m.id)
    |>.required "name" (decodeString_string m.name)
    |>.required "base_currency" (decodeString_string m.baseCurrency)
    |>.required "counter_currency" (decodeString_string m.counterCurrency)

theorem read_toJson (m : Market) : read format m.toJson = .ok m :=
  decodeRecord_ofMembers "Market" (makes m) (by decide)

theorem faithful : codec.Faithful :=
  Codec.faithful_of (fun _ => True) (fun _ _ _ _ => trivial) (fun m _ => read_toJson m)
    fun m _ => built_ofMembers (by simp [Built.string])

end Market

/-! ## Sides and names of orders -/

namespace Side

/-- How a side is read and written. -/
def codec : Codec Side where
  decode := ofJson
  encode := toJson

theorem ofJson_toJson (side : Side) : ofJson side.toJson = .ok side := by
  cases side <;> rfl

theorem built_toJson (side : Side) : Built P levels side.toJson := .string _

theorem faithful : codec.Faithful :=
  Codec.faithful_of (fun _ => True) (fun _ _ _ _ => trivial) (fun side _ => ofJson_toJson side)
    fun side _ => built_toJson side

end Side

namespace OrderId

/-- How the name of an order is read and written. -/
def codec : Codec OrderId where
  decode := ofJson
  encode := toJson

theorem ofJson_toJson (id : OrderId) : ofJson id.toJson = .ok id := rfl

theorem built_toJson (id : OrderId) : Built P levels id.toJson := .string _

theorem faithful : codec.Faithful :=
  Codec.faithful_of (fun _ => True) (fun _ _ _ _ => trivial) (fun id _ => ofJson_toJson id)
    fun id _ => built_toJson id

end OrderId

/-! ## Order books -/

namespace PriceLevel

/-- How a price level is read and written. -/
def codec : Codec PriceLevel where
  decode := ofJson
  encode := toJson

theorem makes (l : PriceLevel) :
    fields.Makes [("price", l.price.toJson), ("quantity", l.quantity.toJson)] l :=
  (Fields.makes_start PriceLevel.mk)
    |>.required "price" l.price.ofJson_toJson
    |>.required "quantity" l.quantity.ofJson_toJson

theorem ofJson_toJson (l : PriceLevel) : ofJson l.toJson = .ok l :=
  decodeRecord_ofMembers "PriceLevel" (makes l) (by decide)

theorem decodeList_map (ls : List PriceLevel) :
    decodeList ofJson (.array (ls.map (·.toJson))) = .ok ls :=
  Json.decodeList_map fun l _ => ofJson_toJson l

theorem built_toJson (l : PriceLevel) : Built P (levels + 1) l.toJson :=
  built_ofMembers (by simp [Decimal.built_toJson])

theorem faithful : codec.Faithful :=
  Codec.faithful_of (fun _ => True) (fun _ _ _ _ => trivial) (fun l _ => ofJson_toJson l)
    fun l _ => built_toJson l

end PriceLevel

namespace OrderBook

/-- How an order book is read and written. -/
def codec : Codec OrderBook where
  decode := ofJson
  encode := toJson

theorem makes {b : OrderBook} (h : b.timestamp.InCalendar) :
    fields.Makes [("market_id", .string b.marketId), ("bids", .array (b.bids.map (·.toJson))),
      ("asks", .array (b.asks.map (·.toJson))), ("timestamp", b.timestamp.toJson)] b :=
  (Fields.makes_start OrderBook.mk)
    |>.required "market_id" (decodeString_string b.marketId)
    |>.required "bids" (PriceLevel.decodeList_map b.bids)
    |>.required "asks" (PriceLevel.decodeList_map b.asks)
    |>.required "timestamp" (Instant.ofJson_toJson h)

theorem ofJson_toJson {b : OrderBook} (h : b.timestamp.InCalendar) : ofJson b.toJson = .ok b :=
  decodeRecord_ofMembers _ (makes h) (by decide)

theorem gives : fields.Gives (fun _ => True) fun b => b.timestamp.InCalendar := by
  have hfields := (Fields.gives_start OrderBook.mk)
    |>.any (.required "market_id" decodeString)
    |>.any (.required "bids" (decodeList PriceLevel.ofJson))
    |>.any (.required "asks" (decodeList PriceLevel.ofJson))
    |>.field (Field.gives_required "timestamp" Instant.gives_ofJson)
  refine hfields.imp ?_
  rintro b ⟨_, t, ⟨_, asks, ⟨_, bids, ⟨_, id, rfl, rfl⟩, rfl⟩, rfl⟩, ht, rfl⟩
  exact ht

/-- The timestamp of an order book that was read stands in the calendar. -/
theorem gives_ofJson : Gives ofJson (fun _ => True) fun b => b.timestamp.InCalendar := fun v b _ =>
  gives_decodeRecord "OrderBook" gives v b fun _ _ => trivial

theorem built_toJson (b : OrderBook) : Built P 3 b.toJson := by
  have hlevels : ∀ ls : List PriceLevel, Built P 2 (.array (ls.map (·.toJson))) := fun ls =>
    .array (by simp [PriceLevel.built_toJson])
  exact built_ofMembers (by simp [Built.string, Instant.built_toJson, hlevels])

theorem faithful : codec.Faithful :=
  Codec.faithful_of (fun b => b.timestamp.InCalendar) gives_ofJson
    (fun _ => ofJson_toJson) fun b _ => built_toJson b

end OrderBook

/-! ## Open orders -/

namespace OpenOrder

/-- How an open order is read and written. -/
def codec : Codec OpenOrder where
  decode := ofJson
  encode := toJson

theorem makes {o : OpenOrder} (h : ∀ t, o.createdAt = some t → t.InCalendar) :
    fields.Makes [("id", o.id.toJson), ("market_id", .string o.marketId), ("side", o.side.toJson),
      ("price", o.price.toJson), ("quantity", o.quantity.toJson),
      ("created_at", .ofOption (·.toJson) o.createdAt)] o :=
  (Fields.makes_start OpenOrder.mk)
    |>.required "id" o.id.ofJson_toJson
    |>.required "market_id" (decodeString_string o.marketId)
    |>.required "side" o.side.ofJson_toJson
    |>.required "price" o.price.ofJson_toJson
    |>.required "quantity" o.quantity.ofJson_toJson
    |>.field (decodeOption_ofOption (fun t ht => Instant.ofJson_toJson (h t ht))
      fun _ hnull => by cases hnull)

theorem ofJson_toJson {o : OpenOrder} (h : ∀ t, o.createdAt = some t → t.InCalendar) :
    ofJson o.toJson = .ok o :=
  decodeRecord_ofMembers _ (makes h) (by decide)

theorem gives : fields.Gives (fun _ => True) fun o => ∀ t, o.createdAt = some t → t.InCalendar := by
  have hfields := (Fields.gives_start OpenOrder.mk)
    |>.any (.required "id" OrderId.ofJson)
    |>.any (.required "market_id" decodeString)
    |>.any (.required "side" Side.ofJson)
    |>.any (.required "price" Decimal.ofJson)
    |>.any (.required "quantity" Decimal.ofJson)
    |>.field (gives_optionalMember "created_at" Instant.gives_ofJson)
  refine hfields.imp ?_
  rintro o ⟨_, created, ⟨_, quantity, ⟨_, price, ⟨_, side, ⟨_, marketId, ⟨_, id, rfl, rfl⟩, rfl⟩, rfl⟩,
    rfl⟩, rfl⟩, hcreated, rfl⟩
  exact hcreated

/-- The time of an order that was read stands in the calendar. -/
theorem gives_ofJson : Gives ofJson (fun _ => True) fun o => ∀ t, o.createdAt = some t → t.InCalendar :=
  fun v o _ => gives_decodeRecord "OpenOrder" gives v o fun _ _ => trivial

theorem built_toJson (o : OpenOrder) : Built P 1 o.toJson := by
  have hcreated : Built P 0 (.ofOption (·.toJson) o.createdAt) :=
    built_ofOption fun t _ => t.built_toJson
  exact built_ofMembers (by
    simp [Built.string, Decimal.built_toJson, OrderId.built_toJson, Side.built_toJson, hcreated])

theorem faithful : codec.Faithful :=
  Codec.faithful_of (fun o => ∀ t, o.createdAt = some t → t.InCalendar) gives_ofJson
    (fun _ => ofJson_toJson) fun o _ => (built_toJson o).mono (by omega)

end OpenOrder

end ScalpBot
