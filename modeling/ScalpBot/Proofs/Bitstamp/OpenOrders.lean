import ScalpBot.Proofs.Bitstamp.Classification
import ScalpBot.Proofs.Record
import ScalpBot.Proofs.Strategy.LiveOrders

/-!
# Open orders by name

The exchange names an order when it takes it, and again when it lists the open orders, each time as a
text or as a number as it likes (`Names`). Either way the client comes to the same text (`HasId`), and it
lists each entry that was sent, in order, or fails (`Client.openOrders_eq_ok_iff`). So the strategy finds
an order that it remembers filled if and only if it is not among the entries: `filled_iff_unlisted`.
-/

namespace ScalpBot

open Json

/-! ## The first field of a value -/

/-- Where a value holds the first field of a record: at its name, or in front. -/
def Json.firstOf? (name : String) : Json → Option Json
  | .object members => members.lookup name
  | .array items => items.head?
  | _ => none

/-- A record is in the relation `P` to what is read from its first field, whatever form it has. -/
theorem Json.first_of_decodeRecord {α γ : Type} {fs : Fields Json DecodeError α} {name : String}
    {read : Decoder γ} {P : γ → α → Prop} (h : fs.Leads (.required name read) P) {kind : String}
    {v : Json} {a : α} (hread : decodeRecord kind fs v = .ok a) :
    ∃ w x, v.firstOf? name = some w ∧ read w = .ok x ∧ P x a := by
  cases v with
  | object members =>
    obtain ⟨_, -, hmembers⟩ := bind_eq_ok_iff.mp hread
    obtain ⟨x, hfind, hx⟩ := h.ofMembers hmembers
    obtain ⟨w, hmember, hw⟩ := Field.find_required_eq_ok_iff.mp hfind
    exact ⟨w, x, hmember, hw, hx⟩
  | array items =>
    obtain ⟨⟨a', rest⟩, hitems, hend⟩ := bind_eq_ok_iff.mp hread
    obtain ⟨x, more, htake, hx⟩ := h.ofItems hitems
    obtain ⟨w, rfl, hw⟩ := Field.take_required_eq_ok_iff.mp htake
    dsimp only at hend
    split at hend
    · obtain rfl := Except.ok.inj hend
      exact ⟨w, x, rfl, hw, hx⟩
    · cases hend
  | _ => cases hread

namespace Bitstamp

/-! ## Names -/

/-- A name that was sent, as a text: a text is meant as it is, and a number of 64 bits by its
digits. -/
inductive Names : Json → String → Prop
  | text (s : String) : Names (.string s) s
  | number {n : Nat} (h : n < 2 ^ 64) : Names (.ofInt n) (toString n)

theorem names_iff {v : Json} {text : String} :
    Names v text ↔ ∃ label, Label.ofJson v = .ok label ∧ label.toText = text := by
  constructor
  · rintro (_ | @⟨n, h⟩)
    · exact ⟨.text text, rfl, rfl⟩
    · refine ⟨.number n, ?_, rfl⟩
      have hn : (n : Int) < 18446744073709551616 := by omega
      simpa [ofInt, Label.ofJson] using hn
  · rintro ⟨label, hlabel, rfl⟩
    unfold Label.ofJson at hlabel
    split at hlabel
    · obtain rfl := Except.ok.inj hlabel
      exact .text _
    · rename_i n
      split at hlabel
      · rename_i hn
        obtain rfl := Except.ok.inj hlabel
        simp only [Bool.and_eq_true, decide_eq_true_eq] at hn
        obtain ⟨m, rfl⟩ := Int.eq_ofNat_of_zero_le hn.1
        exact .number (by omega)
      · cases hlabel
    · cases hlabel

/-- The value of an order names it so. -/
def HasId (v : Json) (text : String) : Prop := ∃ w, v.firstOf? "id" = some w ∧ Names w text

theorem HasId.unique {v : Json} {a b : String} (ha : HasId v a) (hb : HasId v b) : a = b := by
  obtain ⟨w, hw, ha⟩ := ha
  obtain ⟨w', hw', hb⟩ := hb
  obtain rfl := Option.some.inj (hw.symm.trans hw')
  obtain ⟨label, hlabel, rfl⟩ := names_iff.mp ha
  obtain ⟨label', hlabel', rfl⟩ := names_iff.mp hb
  rw [Except.ok.inj (hlabel.symm.trans hlabel')]

theorem hasId_of_decodeRecord {α : Type} {fs : Fields Json DecodeError α} {id : α → Label}
    (h : fs.Leads (.required "id" Label.ofJson) fun label a => label = id a) {kind : String}
    {v : Json} {a : α} (hread : decodeRecord kind fs v = .ok a) : HasId v (id a).toText := by
  obtain ⟨w, _, hw, hlabel, rfl⟩ := first_of_decodeRecord h hread
  exact ⟨w, hw, names_iff.mpr ⟨_, hlabel, rfl⟩⟩

theorem hasId_of_order {v : Json} {reply : OrderReply} (h : OrderReply.ofJson v = .ok reply) :
    HasId v reply.id.toText := by
  refine hasId_of_decodeRecord (((((Fields.leads_start _ _).field _).field _).field _).field _
    |>.imp ?_) h
  rintro label _ ⟨_, _, ⟨_, _, ⟨_, _, ⟨_, _, rfl, rfl⟩, rfl⟩, rfl⟩, rfl⟩
  rfl

theorem hasId_of_openOrder {v : Json} {reply : OpenOrderReply}
    (h : OpenOrderReply.ofJson v = .ok reply) : HasId v reply.id.toText := by
  refine hasId_of_decodeRecord ((((((Fields.leads_start _ _).field _).field _).field _).field _).field
    _ |>.imp ?_) h
  rintro label _ ⟨_, _, ⟨_, _, ⟨_, _, ⟨_, _, ⟨_, _, rfl, rfl⟩, rfl⟩, rfl⟩, rfl⟩, rfl⟩
  rfl

/-! ## Entries -/

/-- What an entry of the list says of an open order. -/
structure Describes (marketId : String) (reply : OpenOrderReply) (order : OpenOrder) : Prop where
  id : order.id.text = reply.id.toText
  market : order.marketId = marketId
  side : reply.orderType.toText = "0" ∧ order.side = .buy ∨
    reply.orderType.toText = "1" ∧ order.side = .sell
  price : Decimal.parse (trimmed reply.price) = .ok order.price
  quantity : Decimal.parse (trimmed reply.amount) = .ok order.quantity
  createdAt : order.createdAt = (Instant.parsePlain reply.datetime).toOption

/-- An entry of the list, as sent, is an open order. -/
def Lists (marketId : String) (item : Json) (order : OpenOrder) : Prop :=
  ∃ reply, OpenOrderReply.ofJson item = .ok reply ∧ Describes marketId reply order

theorem Lists.hasId {marketId : String} {item : Json} {order : OpenOrder}
    (h : Lists marketId item order) : HasId item order.id.text := by
  obtain ⟨reply, hshape, hdescribes⟩ := h
  exact hdescribes.id ▸ hasId_of_openOrder hshape

theorem Lists.hasId_iff {marketId : String} {item : Json} {order : OpenOrder} {id : OrderId}
    (h : Lists marketId item order) : HasId item id.text ↔ order.id = id := by
  constructor
  · intro hid
    have htext : order.id.text = id.text := h.hasId.unique hid
    exact congrArg OrderId.mk htext
  · rintro rfl
    exact h.hasId

/-- A name is among the entries where it is among the orders. -/
theorem exists_hasId_iff {marketId : String} {items : List Json} {orders : List OpenOrder}
    (h : List.Forall₂ (Lists marketId) items orders) (id : OrderId) :
    (∃ item ∈ items, HasId item id.text) ↔ ∃ order ∈ orders, order.id = id := by
  induction h with
  | nil => simp
  | cons hitem _ ih => simp only [List.exists_mem_cons_iff, hitem.hasId_iff, ih]

theorem exists_lists_of_mem {marketId : String} {items : List Json} {orders : List OpenOrder}
    (h : List.Forall₂ (Lists marketId) items orders) {item : Json} (hitem : item ∈ items) :
    ∃ order, Lists marketId item order := by
  induction h with
  | nil => cases hitem
  | cons hhead _ ih =>
    rcases List.mem_cons.mp hitem with rfl | hitem
    · exact ⟨_, hhead⟩
    · exact ih hitem

namespace Client

theorem readDecimal_eq_ok_iff {what text : String} {a : Decimal} :
    readDecimal what text = .ok a ↔ Decimal.parse (trimmed text) = .ok a := by
  rw [readDecimal]
  split <;> simp_all

theorem readSide_eq_ok_iff {code : Label} {side : Side} :
    readSide code = .ok side ↔
      code.toText = "0" ∧ side = .buy ∨ code.toText = "1" ∧ side = .sell := by
  rw [readSide]
  by_cases hbuy : code.toText = "0"
  · simp [hbuy, eq_comm]
  by_cases hsell : code.toText = "1"
  · simp [hsell, eq_comm]
  · simp [hbuy, hsell]

theorem readOpenOrder_eq_ok_iff {marketId : String} {reply : OpenOrderReply} {order : OpenOrder} :
    readOpenOrder marketId reply = .ok order ↔ Describes marketId reply order := by
  simp only [readOpenOrder, bind_eq_ok_iff, readSide_eq_ok_iff, readDecimal_eq_ok_iff]
  constructor
  · rintro ⟨side, hside, price, hprice, quantity, hquantity, ⟨⟩⟩
    exact ⟨rfl, rfl, hside, hprice, hquantity, rfl⟩
  · rintro ⟨hid, hmarket, hside, hprice, hquantity, hcreated⟩
    refine ⟨order.side, hside, order.price, hprice, order.quantity, hquantity, ?_⟩
    rw [← hid, ← hmarket, ← hcreated]
    rfl

/-! ## The list -/

variable {ν : Type} {c : Client} {net : Network ν} {marketId : String} {call : Call} {world : ν}

/-- **A list is answered with one open order for each entry, in order**, or not at all. -/
theorem openOrders_eq_ok_iff {items : List Json} {orders : List OpenOrder}
    (h : c.Receives net marketId .openOrders world (.array items)) :
    (c.answer net marketId .openOrders world).1 = .ok orders ↔
      List.Forall₂ (Lists marketId) items orders := by
  obtain ⟨now, hanswer⟩ := answer_of_receives h
  rw [hanswer, bind_eq_ok_iff]
  -- an array is no rejection, and its entries are read before any is turned into an order
  have hread : ∀ replies, readValue (Wire.ofJson .openOrders) (.array items) = .ok replies ↔
      items.mapM OpenOrderReply.ofJson = .ok replies := fun replies =>
    readValue_eq_ok_iff.trans (and_iff_right rfl)
  simp only [hread]
  refine exists_mapM_mapM_eq_ok_iff.trans (iff_of_eq ?_)
  simp only [readOpenOrder_eq_ok_iff]
  rfl

/-- What is answered as open orders came as an array. -/
theorem exists_array_of_openOrders {orders : List OpenOrder}
    (h : (c.answer net marketId .openOrders world).1 = .ok orders) :
    ∃ items, c.Receives net marketId .openOrders world (.array items) := by
  obtain ⟨v, wire, _, hreceives, -, hshape, -⟩ := receives_of_answer h
  cases v with
  | array items => exact ⟨items, hreceives⟩
  | _ => cases hshape

/-- A call that receives a value and fails, fails for good. -/
theorem nonRecoverable_of_receives {v : Json} {cause : Failure}
    (h : c.Receives net marketId call world v)
    (hcause : (c.answer net marketId call world).1 = .error cause) :
    cause.failureClass = .nonRecoverable := by
  obtain ⟨now, hanswer⟩ := answer_of_receives h
  rcases bind_eq_error_iff.mp (hanswer.symm.trans hcause) with hread | ⟨wire, -, hturn⟩
  · rw [readValue] at hread
    split at hread
    · cases hread
      rfl
    · cases hshape : Wire.ofJson call v <;> rw [hshape] at hread <;> cases hread
      rfl
  · obtain ⟨text, rfl⟩ := onlyInvalid_toAnswer now marketId call wire cause hturn
    rfl

end Client

/-! ## The verdict -/

variable {ν : Type} {s : Strategy} {c : Client} {net : Network ν}

theorem isFilled_run {σ : Type} {exchange : Exchange σ} {world : σ} {orders : List OpenOrder}
    (h : (exchange.answer s.market.id .openOrders world).1 = .ok orders) (order : PlacedOrder) :
    ((s.isFilled order).run exchange world).1 = .ok (!orders.any fun o => o.id = order.id) := by
  have hask : s.isFilled order = .ask s.market.id .openOrders fun openOrders =>
      .done (!openOrders.any fun o => o.id = order.id) := rfl
  rw [hask, Dialogue.run]
  split
  · rename_i heq
    rw [heq] at h
    obtain rfl := Except.ok.inj h
    rfl
  · rename_i heq
    rw [heq] at h
    cases h

/-- **A listed order is never judged filled.**  Let an order be taken under the name `id`. The reply
has carried that name, as a text or as a number. Whenever open orders are answered afterwards, they are
the entries that were sent, in order, and the strategy that remembers the order finds it filled if and
only if no entry has the name. If any entry is not an open order, the call fails as a whole, and for
good. -/
theorem filled_iff_unlisted {before world : ν} {side : Side} {quantity price : Decimal} {id : OrderId}
    (h : (c.answer net s.market.id (.submitOrder side quantity price) before).1 = .ok id) :
    (∃ v, c.Receives net s.market.id (.submitOrder side quantity price) before v ∧
      HasId v id.text) ∧
    (∀ orders, (c.answer net s.market.id .openOrders world).1 = .ok orders →
      ∃ items, c.Receives net s.market.id .openOrders world (.array items) ∧
        List.Forall₂ (fun item o => Lists s.market.id item o ∧ HasId item o.id.text) items orders ∧
        ∀ order : PlacedOrder, order.id = id → ∃ filled,
          ((s.isFilled order).run (c.toExchange net) world).1 = .ok filled ∧
          (filled = true ↔ ∀ item ∈ items, ¬ HasId item id.text)) ∧
    ∀ items, c.Receives net s.market.id .openOrders world (.array items) →
      (∃ item ∈ items, ∀ o, ¬ Lists s.market.id item o) →
      ∃ cause, (c.answer net s.market.id .openOrders world).1 = .error cause ∧
        cause.failureClass = .nonRecoverable := by
  refine ⟨?_, fun orders horders => ?_, fun items hitems ⟨item, hitem, hnot⟩ => ?_⟩
  · obtain ⟨v, reply, _, hreceives, -, hshape, hturn⟩ := Client.receives_of_answer h
    obtain rfl := Except.ok.inj hturn
    exact ⟨v, hreceives, hasId_of_order hshape⟩
  · obtain ⟨items, hitems⟩ := Client.exists_array_of_openOrders horders
    have hlists := (Client.openOrders_eq_ok_iff hitems).mp horders
    refine ⟨items, hitems, hlists.imp fun item o hl => ⟨hl, hl.hasId⟩, ?_⟩
    rintro order rfl
    refine ⟨_, isFilled_run horders order, ?_⟩
    have hnamed := exists_hasId_iff hlists order.id
    simpa using (not_congr hnamed).symm
  · cases hanswer : (c.answer net s.market.id .openOrders world).1 with
    | error cause => exact ⟨cause, rfl, Client.nonRecoverable_of_receives hitems hanswer⟩
    | ok orders =>
      obtain ⟨o, ho⟩ :=
        exists_lists_of_mem ((Client.openOrders_eq_ok_iff hitems).mp hanswer) hitem
      exact absurd ho (hnot o)

/-! ## An order named in two ways -/

/-- Orders are taken under the number 7, and one order is open under the text. -/
def sampleBody (target : String) : String :=
  if target = "/api/v2/open_orders/ltcbtc/" then
    "[\x7b\"id\": \"7\", \"datetime\": \"\", \"type\": 0, \"price\": \"1\", \"amount\": \"1\"\x7d]"
  else "\x7b\"id\": 7\x7d"

/-- The order is found among the entries, so it is not filled. -/
theorem not_filled_sample :
    (Client.sample.answer (.answering sampleBody) Strategy.sample.market.id
      (.submitOrder .buy .one .one) ()).1 = .ok ⟨"7"⟩ ∧
    ((Strategy.sample.isFilled ⟨.buy, ⟨"7"⟩, .one, .one⟩).run
      (Client.sample.toExchange (.answering sampleBody)) ()).1 = .ok false := by
  have hsubmit : (Client.sample.answer (.answering sampleBody) Strategy.sample.market.id
      (.submitOrder .buy .one .one) ()).1 = .ok ⟨"7"⟩ := by decide +kernel
  have hopen : (Client.sample.answer (.answering sampleBody) Strategy.sample.market.id
      .openOrders ()).1 = .ok [⟨⟨"7"⟩, "ltcbtc", .buy, .one, .one, none⟩] := by decide +kernel
  refine ⟨hsubmit, ?_⟩
  obtain ⟨-, hanswered, -⟩ := filled_iff_unlisted (s := Strategy.sample) hsubmit
  obtain ⟨items, -, hlists, hverdict⟩ := hanswered _ hopen
  obtain ⟨filled, hrun, hfilled⟩ := hverdict ⟨.buy, ⟨"7"⟩, .one, .one⟩ rfl
  have hnamed : ∃ item ∈ items, HasId item "7" :=
    (exists_hasId_iff (hlists.imp fun _ _ h => h.1) ⟨"7"⟩).mpr ⟨_, List.mem_singleton_self _, rfl⟩
  cases filled with
  | false => exact hrun
  | true =>
    obtain ⟨item, hitem, hid⟩ := hnamed
    exact absurd hid (hfilled.mp rfl item hitem)

end Bitstamp

end ScalpBot
