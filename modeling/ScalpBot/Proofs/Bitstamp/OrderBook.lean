import Mathlib.Order.Bounds.Basic
import ScalpBot.Proofs.Bitstamp.OpenOrders
import ScalpBot.Proofs.Decimal.Value
import ScalpBot.Proofs.Strategy.Protocol

/-!
# The order book as it was sent

An order book is sent as texts, a price and an amount for each level. They are looked at one after the
other: the bids before the asks, and the price of a level before its amount (`OrderBookReply.figures`).
Either all of them are numbers and the book shows each level in its place (`OrderBookReply.Shows`), or
the first one that is none is complained about and there is no book (`Client.readBook_eq_error_iff`).

So where the exchange sends its levels in order, the first of each side is the best of it, and the
strategy skips a cycle if and only if a side was sent empty: `orderBook_faithful`.
-/

namespace ScalpBot

/-! ## The first of a list in order -/

/-- The first of a list is the greatest, where no later one is greater than an earlier one. -/
theorem isGreatest_of_forall₂ {α β : Type} [Preorder β] {R : α → β → Prop} {items : List α}
    {first : β} {rest : List β} (hunique : ∀ a x y, R a x → R a y → x = y)
    (hsorted : items.Pairwise fun a b => ∀ x y, R a x → R b y → y ≤ x)
    (h : List.Forall₂ R items (first :: rest)) :
    IsGreatest {x | ∃ a ∈ items, R a x} first := by
  obtain ⟨a, tail, ha, -, rfl⟩ := List.forall₂_cons_right_iff.mp h
  refine ⟨⟨a, List.mem_cons_self, ha⟩, ?_⟩
  rintro y ⟨b, hb, hy⟩
  rcases List.mem_cons.mp hb with rfl | hb
  · exact (hunique _ _ _ hy ha).le
  · exact (List.pairwise_cons.mp hsorted).1 b hb first y ha hy

namespace Bitstamp

/-! ## The figures of a book -/

/-- A text that is to be a number, and the side of the book where it stands. -/
structure Figure where
  side : String
  text : String

namespace Figure

/-- The number that is meant; blanks around it do not count. -/
def number (f : Figure) : Except Decimal.ParseError Decimal := Decimal.parse (trimmed f.text)

/-- The complaint about a text that is no number. It quotes the text as it was sent. -/
def complaint (f : Figure) (cause : Decimal.ParseError) : Failure :=
  .invalidResponse ("Invalid " ++ f.side ++ " '" ++ f.text ++ "': " ++ cause.message)

end Figure

namespace BookLevel

/-- The two texts of a level. -/
def figures (side : String) (l : BookLevel) : List Figure := [⟨side, l.price⟩, ⟨side, l.amount⟩]

/-- What a level says in numbers. -/
structure ReadsAs (l : BookLevel) (level : PriceLevel) : Prop where
  price : Decimal.parse (trimmed l.price) = .ok level.price
  quantity : Decimal.parse (trimmed l.amount) = .ok level.quantity

/-- A level has this price. -/
def Costs (l : BookLevel) (x : ℚ) : Prop :=
  ∃ price, Decimal.parse (trimmed l.price) = .ok price ∧ price.value = x

theorem Costs.unique (l : BookLevel) (x y : ℚ) (hx : l.Costs x) (hy : l.Costs y) : x = y := by
  obtain ⟨price, hprice, rfl⟩ := hx
  obtain ⟨price', hprice', rfl⟩ := hy
  rw [Except.ok.inj (hprice.symm.trans hprice')]

theorem ReadsAs.costs {l : BookLevel} {level : PriceLevel} (h : l.ReadsAs level) :
    l.Costs level.price.value :=
  ⟨_, h.price, rfl⟩

end BookLevel

namespace OrderBookReply

/-- The texts of a book in the order in which they are read. -/
def figures (r : OrderBookReply) : List Figure :=
  r.bids.flatMap (BookLevel.figures "bid") ++ r.asks.flatMap (BookLevel.figures "ask")

/-- The first text of a book that is no number, and what is wrong with it. -/
def FailsAt (r : OrderBookReply) (f : Figure) (cause : Decimal.ParseError) : Prop :=
  ∃ before after, r.figures = before ++ f :: after ∧
    (∀ g ∈ before, ∃ a, g.number = .ok a) ∧ f.number = .error cause

/-- A book shows what was sent: on each side as many levels, in the same order, each with its
numbers. -/
structure Shows (r : OrderBookReply) (book : OrderBook) : Prop where
  bids : List.Forall₂ BookLevel.ReadsAs r.bids book.bids
  asks : List.Forall₂ BookLevel.ReadsAs r.asks book.asks

/-- The levels are sent in order: no bid has a higher price than an earlier one, and no ask a lower
one. -/
structure Sorted (r : OrderBookReply) : Prop where
  bids : r.bids.Pairwise fun l m => ∀ x y, l.Costs x → m.Costs y → y ≤ x
  asks : r.asks.Pairwise fun l m => ∀ x y, l.Costs x → m.Costs y → x ≤ y

variable {r : OrderBookReply} {book : OrderBook}

theorem costs_of_readsAs {levels : List BookLevel} {shown : List PriceLevel}
    (h : List.Forall₂ BookLevel.ReadsAs levels shown) :
    List.Forall₂ BookLevel.Costs levels (shown.map fun l => l.price.value) :=
  List.forall₂_map_right_iff.mpr (h.imp fun _ _ hl => hl.costs)

theorem Shows.bids_eq_nil_iff (h : r.Shows book) : book.bids = [] ↔ r.bids = [] := by
  rw [← List.length_eq_zero_iff, ← List.length_eq_zero_iff, h.bids.length_eq]

theorem Shows.asks_eq_nil_iff (h : r.Shows book) : book.asks = [] ↔ r.asks = [] := by
  rw [← List.length_eq_zero_iff, ← List.length_eq_zero_iff, h.asks.length_eq]

/-- The best bid of a book that was sent in order has the greatest price of all bids. -/
theorem Shows.bestBid (h : r.Shows book) (hsorted : r.Sorted) (hbids : r.bids ≠ []) :
    ∃ best, book.bestBid = some best ∧
      IsGreatest {x | ∃ l ∈ r.bids, l.Costs x} best.price.value := by
  obtain ⟨best, rest, hbook⟩ := List.exists_cons_of_ne_nil (mt h.bids_eq_nil_iff.mp hbids)
  have hcosts := costs_of_readsAs h.bids
  rw [hbook] at hcosts
  exact ⟨best, by rw [OrderBook.bestBid, hbook]; rfl,
    isGreatest_of_forall₂ BookLevel.Costs.unique hsorted.bids hcosts⟩

/-- The best ask of a book that was sent in order has the least price of all asks. -/
theorem Shows.bestAsk (h : r.Shows book) (hsorted : r.Sorted) (hasks : r.asks ≠ []) :
    ∃ best, book.bestAsk = some best ∧
      IsLeast {x | ∃ l ∈ r.asks, l.Costs x} best.price.value := by
  obtain ⟨best, rest, hbook⟩ := List.exists_cons_of_ne_nil (mt h.asks_eq_nil_iff.mp hasks)
  have hcosts := costs_of_readsAs h.asks
  rw [hbook] at hcosts
  -- the least price is the greatest one in the order the other way round
  exact ⟨best, by rw [OrderBook.bestAsk, hbook]; rfl,
    isGreatest_of_forall₂ (β := ℚᵒᵈ) BookLevel.Costs.unique hsorted.asks hcosts⟩

end OrderBookReply

/-! ## Reading a book -/

namespace Client

/-- Reads one text of a book. -/
def readFigure (f : Figure) : Except Failure Decimal := readDecimal f.side f.text

theorem readFigure_eq_ok_iff {f : Figure} {a : Decimal} :
    readFigure f = .ok a ↔ f.number = .ok a :=
  readDecimal_eq_ok_iff

theorem readFigure_eq_error_iff {f : Figure} {failure : Failure} :
    readFigure f = .error failure ↔
      ∃ cause, f.number = .error cause ∧ failure = f.complaint cause := by
  rw [readFigure, readDecimal, Figure.number]
  cases hparse : Decimal.parse (trimmed f.text) with
  | ok a => simp
  | error cause => simp [Figure.complaint, eq_comm]

/-- The numbers of some levels, price and quantity in turn. -/
def numbers (levels : List PriceLevel) : List Decimal :=
  levels.flatMap fun l => [l.price, l.quantity]

/-- **The levels of a side are read text by text.** -/
theorem map_numbers_readLevels (side : String) (levels : List BookLevel) :
    (readLevels side levels).map numbers =
      (levels.flatMap (BookLevel.figures side)).mapM readFigure := by
  induction levels with
  | nil => rfl
  | cons l levels ih =>
    rw [List.flatMap_cons, List.mapM_append, ← ih, readLevels, List.mapM_cons]
    rw [show BookLevel.figures side l = [⟨side, l.price⟩, ⟨side, l.amount⟩] from rfl,
      List.mapM_cons, List.mapM_cons, List.mapM_nil, readFigure, readFigure, readLevels]
    cases readDecimal side l.price with
    | error failure => rfl
    | ok price =>
      cases readDecimal side l.amount with
      | error failure => rfl
      | ok quantity =>
        generalize (List.mapM _ levels : Except Failure (List PriceLevel)) = rest
        cases rest <;> rfl

/-- The numbers of a book in the order in which they are read. -/
def figuresOf (book : OrderBook) : List Decimal := numbers book.bids ++ numbers book.asks

variable {now : Instant} {marketId : String} {reply : OrderBookReply} {book : OrderBook}

/-- **A book is read text by text**, the bids before the asks. -/
theorem map_figuresOf_readBook (now : Instant) (marketId : String) (reply : OrderBookReply) :
    (readBook now marketId reply).map figuresOf = reply.figures.mapM readFigure := by
  rw [OrderBookReply.figures, List.mapM_append, ← map_numbers_readLevels, ← map_numbers_readLevels,
    readBook]
  cases readLevels "bid" reply.bids with
  | error failure => rfl
  | ok bids => cases readLevels "ask" reply.asks <;> rfl

theorem readBook_eq_error_iff_mapM {failure : Failure} :
    readBook now marketId reply = .error failure ↔
      reply.figures.mapM readFigure = .error failure := by
  rw [← map_figuresOf_readBook now marketId reply]
  cases readBook now marketId reply <;> simp [Except.map]

/-- A book is read exactly if all its texts are numbers. -/
theorem exists_readBook_eq_ok_iff :
    (∃ book, readBook now marketId reply = .ok book) ↔
      ∀ f ∈ reply.figures, ∃ a, f.number = .ok a := by
  simp only [← readFigure_eq_ok_iff]
  rw [← exists_mapM_eq_ok_iff, ← map_figuresOf_readBook now marketId reply]
  cases readBook now marketId reply <;> simp [Except.map]

/-- **A book that is not read fails at its first text that is no number**, which it complains
about. -/
theorem readBook_eq_error_iff {failure : Failure} :
    readBook now marketId reply = .error failure ↔
      ∃ f cause, reply.FailsAt f cause ∧ failure = f.complaint cause := by
  rw [readBook_eq_error_iff_mapM, mapM_eq_error_iff]
  simp only [readFigure_eq_ok_iff, readFigure_eq_error_iff]
  constructor
  · rintro ⟨before, f, after, hfigures, hbefore, cause, hcause, hfailure⟩
    exact ⟨f, cause, ⟨before, after, hfigures, hbefore, hcause⟩, hfailure⟩
  · rintro ⟨f, cause, ⟨before, after, hfigures, hbefore, hcause⟩, hfailure⟩
    exact ⟨before, f, after, hfigures, hbefore, cause, hcause, hfailure⟩

/-- The amount of a bid comes before the price of an ask. -/
example : readBook ⟨0, 0⟩ "ltcbtc" ⟨"0", none, [⟨"1", "many"⟩], [⟨"low", "1"⟩]⟩ =
    .error (.invalidResponse "Invalid bid 'many': Invalid decimal: unknown character") := by
  decide +kernel

theorem readLevels_eq_ok_iff {side : String} {levels : List BookLevel} {shown : List PriceLevel} :
    readLevels side levels = .ok shown ↔ List.Forall₂ BookLevel.ReadsAs levels shown := by
  refine mapM_eq_ok_iff.trans (iff_of_eq (congrArg (List.Forall₂ · levels shown) ?_))
  funext l level
  simp only [bind_eq_ok_iff, readDecimal_eq_ok_iff, eq_iff_iff]
  constructor
  · rintro ⟨price, hprice, quantity, hquantity, ⟨⟩⟩
    exact ⟨hprice, hquantity⟩
  · rintro ⟨hprice, hquantity⟩
    exact ⟨_, hprice, _, hquantity, rfl⟩

theorem shows_of_readBook (h : readBook now marketId reply = .ok book) : reply.Shows book := by
  obtain ⟨bids, hbids, h⟩ := bind_eq_ok_iff.mp h
  obtain ⟨asks, hasks, h⟩ := bind_eq_ok_iff.mp h
  obtain rfl := Except.ok.inj h
  exact ⟨readLevels_eq_ok_iff.mp hbids, readLevels_eq_ok_iff.mp hasks⟩

variable {ν : Type} {c : Client} {net : Network ν} {world : ν} {v : Json}

/-- What is answered to a delivered book is what is read from it. -/
theorem orderBook_of_receives (h : c.Receives net marketId .orderBook world v)
    (hrejection : ErrorReply.ofValue? v = none) (hread : OrderBookReply.ofJson v = .ok reply) :
    ∃ now, (c.answer net marketId .orderBook world).1 = readBook now marketId reply := by
  obtain ⟨now, hanswer⟩ := answer_of_receives h
  have hvalue : readValue (Wire.ofJson .orderBook) v = .ok reply :=
    readValue_eq_ok_iff.mpr ⟨hrejection, hread⟩
  refine ⟨now, hanswer.trans ?_⟩
  rw [hvalue]
  rfl

end Client

/-! ## From the reply to the cycle -/

variable {ν : Type} {s : Strategy} {c : Client} {net : Network ν} {world : ν} {v : Json}
  {reply : OrderBookReply}

/-- **An order book is taken as it was sent.**  Let an order book be delivered. There is an answer
exactly if all its texts are numbers, else the call complains about the first that is none. An answer
shows each level in its place. Where the levels were sent in order, the best prices are the greatest
bid and the least ask. And a cycle that gets the answer is skipped exactly if a side was sent empty,
for the bids if both were. -/
theorem orderBook_faithful (h : c.Receives net s.market.id .orderBook world v)
    (hrejection : ErrorReply.ofValue? v = none) (hread : OrderBookReply.ofJson v = .ok reply) :
    ((∃ book, (c.answer net s.market.id .orderBook world).1 = .ok book) ↔
      ∀ f ∈ reply.figures, ∃ a, f.number = .ok a) ∧
    (∀ failure, (c.answer net s.market.id .orderBook world).1 = .error failure ↔
      ∃ f cause, reply.FailsAt f cause ∧ failure = f.complaint cause) ∧
    ∀ book, (c.answer net s.market.id .orderBook world).1 = .ok book →
      reply.Shows book ∧
      (reply.Sorted →
        (reply.bids ≠ [] → ∃ best, book.bestBid = some best ∧
          IsGreatest {x | ∃ l ∈ reply.bids, l.Costs x} best.price.value) ∧
        (reply.asks ≠ [] → ∃ best, book.bestAsk = some best ∧
          IsLeast {x | ∃ l ∈ reply.asks, l.Costs x} best.price.value)) ∧
      ∀ last reason, (s.execute (c.toExchange net) last world).result = .ok (.skipped reason) ↔
        reason = .emptyBids ∧ reply.bids = [] ∨
        reason = .emptyAsks ∧ reply.bids ≠ [] ∧ reply.asks = [] := by
  obtain ⟨now, hanswer⟩ := Client.orderBook_of_receives h hrejection hread
  refine ⟨?_, fun failure => ?_, fun book hbook => ?_⟩
  · rw [hanswer]
    exact Client.exists_readBook_eq_ok_iff
  · rw [hanswer]
    exact Client.readBook_eq_error_iff
  · have hshows := Client.shows_of_readBook (hanswer.symm.trans hbook)
    refine ⟨hshows, fun hsorted => ⟨hshows.bestBid hsorted, hshows.bestAsk hsorted⟩,
      fun last reason => ?_⟩
    rw [Strategy.execute_skipped_iff hbook last, Strategy.misses_iff, ne_eq, hshows.bids_eq_nil_iff,
      hshows.asks_eq_nil_iff]

/-! ## A book with one side -/

/-- The price of the better bid. -/
def twelve : Decimal := ⟨12, 0, Nat.le_of_ble_eq_true rfl, Nat.zero_le _⟩

/-- Two bids, the better one first, and no ask. -/
def oneSidedBook : OrderBookReply := ⟨"0", none, [⟨" 12", "1"⟩, ⟨"1", "1"⟩], []⟩

/-- The book as it is sent. -/
def oneSidedBody : String :=
  "\x7b\"timestamp\": \"0\", \"bids\": [[\" 12\", \"1\"], [\"1\", \"1\"]]\x7d"

theorem sorted_oneSidedBook : oneSidedBook.Sorted where
  bids := by
    refine List.pairwise_pair.mpr ?_
    have hfirst : BookLevel.Costs ⟨" 12", "1"⟩ 12 :=
      ⟨twelve, by decide +kernel, by norm_num [twelve, Decimal.value]⟩
    have hsecond : BookLevel.Costs ⟨"1", "1"⟩ 1 :=
      ⟨.one, by decide +kernel, by norm_num [Decimal.one, Decimal.value]⟩
    intro x y hx hy
    rw [hx.unique _ _ _ hfirst, hy.unique _ _ _ hsecond]
    norm_num
  asks := .nil

/-- The better bid is the best bid, and the cycle is skipped for the asks. -/
theorem oneSidedBook_skipped :
    ∃ v book, Client.sample.Receives (.steady oneSidedBody) Strategy.sample.market.id .orderBook () v ∧
      ErrorReply.ofValue? v = none ∧ OrderBookReply.ofJson v = .ok oneSidedBook ∧
      oneSidedBook.Sorted ∧
      (Client.sample.answer (.steady oneSidedBody) Strategy.sample.market.id .orderBook ()).1 =
        .ok book ∧
      book.bestBid = some ⟨twelve, .one⟩ ∧
      IsGreatest {x | ∃ l ∈ oneSidedBook.bids, l.Costs x} twelve.value ∧
      (Strategy.sample.execute (Client.sample.toExchange (.steady oneSidedBody)) none ()).result =
        .ok (.skipped .emptyAsks) := by
  have hbook : ∃ v, Client.sample.Receives (.steady oneSidedBody) Strategy.sample.market.id
      .orderBook () v ∧ ((ErrorReply.ofValue? v).isNone &&
        (OrderBookReply.ofJson v).toOption.any (· = oneSidedBook)) = true :=
    Client.exists_receives_steady (by decide +kernel) (by decide) (by decide +kernel)
  obtain ⟨v, hreceives, hv⟩ := hbook
  rw [Bool.and_eq_true, Option.isNone_iff_eq_none] at hv
  obtain ⟨reply, hread, hreply⟩ := exists_eq_ok_of_any hv.2
  obtain rfl : reply = oneSidedBook := of_decide_eq_true hreply
  obtain ⟨-, -, hanswered⟩ := orderBook_faithful (s := Strategy.sample) hreceives hv.1 hread
  have hanswer : (Client.sample.answer (.steady oneSidedBody) Strategy.sample.market.id
      .orderBook ()).1 = .ok ⟨"ltcbtc", [⟨twelve, .one⟩, ⟨.one, .one⟩], [], ⟨0, 0⟩⟩ := by
    decide +kernel
  obtain ⟨-, hbest, hskipped⟩ := hanswered _ hanswer
  obtain ⟨best, hbid, hgreatest⟩ := (hbest sorted_oneSidedBook).1 (List.cons_ne_nil _ _)
  obtain rfl := Option.some.inj hbid
  exact ⟨v, _, hreceives, hv.1, hread, sorted_oneSidedBook, hanswer, rfl, hgreatest,
    (hskipped none .emptyAsks).mpr (.inr ⟨rfl, List.cons_ne_nil _ _, rfl⟩)⟩

end Bitstamp

end ScalpBot
