import ScalpBot.Proofs.Bitstamp.Authentication
import ScalpBot.Proofs.Program.Simulation

/-!
# Settings that were loaded

Settings come from any document and any environment, read generously; what holds of all that are loaded is
what `Settings.validate` has checked. Two parts of the bot rest on it without a check of their own: a
clock needs time between its ticks, and a private call needs credentials. `Settings.load_safe` says that
neither fails at settings that were loaded.

An empty key or secret counts as missing, so settings with credentials have two texts that are not empty
(`Bitstamp.Credentials.ofSettings_eq_some_iff`).
-/

namespace ScalpBot

namespace Bitstamp

/-- **Credentials are a key and a secret that are given and not empty.** -/
theorem Credentials.ofSettings_eq_some_iff {key secret : Option String} {credentials : Credentials} :
    ofSettings key secret = some credentials ↔
      key = some credentials.apiKey ∧ secret = some credentials.apiSecret ∧
        credentials.apiKey ≠ "" ∧ credentials.apiSecret ≠ "" := by
  obtain ⟨apiKey, apiSecret⟩ := credentials
  cases key with
  | none => simp [ofSettings]
  | some key =>
    cases secret with
    | none => simp [ofSettings]
    | some secret =>
      rw [ofSettings]
      split
      · rename_i hempty
        refine iff_of_false (by simp) ?_
        rintro ⟨⟨⟩, ⟨⟩, hkey, hsecret⟩
        simp [hkey, hsecret] at hempty
      · rename_i hfull
        simp only [Option.some.injEq, mk.injEq]
        constructor
        · rintro ⟨rfl, rfl⟩
          simpa [not_or] using hfull
        · rintro ⟨hkey, hsecret, -⟩
          exact ⟨hkey, hsecret⟩

/-- A client has the credentials of its settings. -/
theorem Client.credentials_of_ofSettings {s : ExchangeSettings} {c : Client}
    (h : Client.ofSettings s = .ok c) : c.credentials = s.credentials := by
  obtain ⟨made, -, hc⟩ := bind_eq_ok_iff.mp h
  obtain rfl := Except.ok.inj hc
  rfl

end Bitstamp

namespace Settings

variable {settings : Settings} {document? : Option SettingDocument} {vars : Environment.Variables}

/-- **What validation lets pass.** -/
theorem validate_eq_ok_iff {s : Settings} : s.validate = .ok settings ↔
    s = settings ∧ s.market.id.toList.all isBlank = false ∧
      s.engine.tradeCycleIntervalSeconds ≠ 0 ∧ s.exchange.credentials.isSome := by
  rw [validate]
  split
  · rename_i hblank
    simp [hblank]
  split
  · rename_i hzero
    simp [hzero]
  split
  · rename_i hnone
    simp [Option.isNone_iff_eq_none.mp hnone]
  · rename_i hblank hzero hsome
    rw [Except.ok.injEq]
    have hsome : s.exchange.credentials.isSome := by simpa [Option.isSome_iff_ne_none] using hsome
    simp [hblank, hzero, hsome]

/-- Settings that were loaded have been validated. -/
theorem validate_of_load (h : load document? vars = .ok settings) :
    settings.validate = .ok settings := by
  obtain ⟨entries, -, h⟩ := bind_eq_ok_iff.mp h
  obtain ⟨read, -, h⟩ := bind_eq_ok_iff.mp h
  have hvalid := mapError_eq_ok_iff.mp h
  obtain ⟨rfl, -⟩ := validate_eq_ok_iff.mp hvalid
  exact hvalid

open Bitstamp in
/-- **Settings that were loaded are safe to start with.**  Whatever the document and the environment, an
engine starts with their interval. Their key and secret are given and not empty, and a client that is set
up with them never fails to sign, whatever it is asked and whatever is replied: each private call sends
its signed request, or has it refused before for its address or for the value of a header. -/
theorem load_safe (h : load document? vars = .ok settings) :
    (∀ {σ : Type} (channel : Channel) (strategy : σ),
      ∃ e, Engine.start settings.engine.tradeCycleIntervalSeconds channel strategy = .ok e) ∧
    ∃ credentials, settings.exchange.apiKey = some credentials.apiKey ∧
      settings.exchange.apiSecret = some credentials.apiSecret ∧
      credentials.apiKey ≠ "" ∧ credentials.apiSecret ≠ "" ∧
      ∀ c, Client.ofSettings settings.exchange = .ok c →
        ∀ {ν : Type} (net : Network ν) (marketId : String) (call : Call) (world : ν),
          (∀ text, (c.answer net marketId call world).1 ≠ .error (.authentication text)) ∧
          (isPublic call = false → c.Dispatched credentials net marketId call world) := by
  obtain ⟨-, -, hinterval, hsome⟩ := validate_eq_ok_iff.mp (validate_of_load h)
  obtain ⟨credentials, hcredentials⟩ := Option.isSome_iff_exists.mp hsome
  obtain ⟨hkey, hsecret, hkey', hsecret'⟩ := Credentials.ofSettings_eq_some_iff.mp hcredentials
  refine ⟨fun channel strategy => ⟨_, if_neg hinterval⟩, credentials, hkey, hsecret, hkey', hsecret',
    fun c hc ν net marketId call world => ?_⟩
  have hclient := (Client.credentials_of_ofSettings hc).trans hcredentials
  refine ⟨fun text htext => ?_, fun hprivate => Client.dispatched hclient hprivate⟩
  obtain ⟨-, hnone⟩ := Client.unsigned_iff.mp ⟨text, htext⟩
  cases hnone.symm.trans hclient

/-- A document under an environment that gives another key. The client for it gets its fee rate, or
fails, but not for want of a signature. -/
theorem load_safe_sample :
    ∃ settings c, load (some sampleSettings) [("APP__EXCHANGE__API_KEY", "7")] = .ok settings ∧
      settings.exchange.apiKey = some "7" ∧
      Bitstamp.Client.ofSettings settings.exchange = .ok c ∧
      (∀ text, (c.answer (.steady "") "ltcbtc" .buyFeeRate ()).1 ≠ .error (.authentication text)) ∧
      ∃ credentials, c.Dispatched credentials (.steady "") "ltcbtc" .buyFeeRate () := by
  have hkey : (load (some sampleSettings) [("APP__EXCHANGE__API_KEY", "7")]).toOption.bind
      (fun s => (Bitstamp.Client.ofSettings s.exchange).toOption.map fun _ => s.exchange.apiKey) =
        some (some "7") := by decide +kernel
  cases hload : load (some sampleSettings) [("APP__EXCHANGE__API_KEY", "7")] with
  | error cause =>
    rw [hload] at hkey
    cases hkey
  | ok settings =>
    cases hclient : Bitstamp.Client.ofSettings settings.exchange with
    | error cause =>
      simp only [hload, Except.toOption, Option.bind_some, hclient] at hkey
      cases hkey
    | ok c =>
      simp only [hload, Except.toOption, Option.bind_some, hclient] at hkey
      obtain ⟨-, credentials, -, -, -, -, hsafe⟩ := load_safe hload
      obtain ⟨hsigned, hdispatched⟩ := hsafe c hclient (.steady "") "ltcbtc" .buyFeeRate ()
      exact ⟨settings, c, rfl, Option.some.inj hkey, hclient, hsigned, credentials, hdispatched rfl⟩

end Settings

end ScalpBot
