import MacroInvest.Events.Normalizer
import MacroInvest.Library.DatedRows
import MacroInvest.Library.Fallible
import MacroInvest.Macro.Calendar
import MacroInvest.Market.Feeds
import MacroInvest.Quant.Persona

/-! # The live news feeds

Each ticker's news is asked for up to three times; what still fails counts as no news. An item
comes in a flat or in a nested form, and the endpoint lists the items of all tickers, or the
headlines where no item was ever fetched.
-/
namespace MacroInvest.Live
open Market Quant Retry

section Items

/-- The `content` object of the nested form; its links and its provider are objects too. -/
structure NewsContent where
  title : Option String := none
  canonicalUrl : Option (Option String) := none
  clickThroughUrl : Option (Option String) := none
  provider : Option (Option String) := none
  pubDate : Option String := none
  deriving DecidableEq

/-- An item as the feed gives it; what is absent and what is null are alike. -/
structure RawItem where
  title : Option String := none
  content : Option NewsContent := none
  link : Option String := none
  publisher : Option String := none
  providerPublishTime : Option ℤ := none
  deriving DecidableEq

structure NewsItem where
  title : String
  url : Option String
  publisher : Option String
  publishedAt : Option String
  deriving DecidableEq

/-- `a or b` of strings that may be `None`. -/
def orElse (a b : Option String) : Option String := if a.getD "" = "" then b else a

/-- `datetime.fromtimestamp(epoch, tz=UTC).isoformat()`, which raises beyond the calendar. -/
def utcIsoformat (epoch : ℤ) : Except String String :=
  let ordinal := (epoch / 86400 + 719163).toNat
  let second := (epoch % 86400).toNat
  if h : 1 ≤ ordinal ∧ ordinal ≤ Macro.maxOrdinal then
    .ok ((Macro.Date.mk ordinal h.1 h.2).isoformat ++ "T" ++ Macro.Date.digits 2 (second / 3600) ++
      ":" ++ Macro.Date.digits 2 (second / 60 % 60) ++ ":" ++ Macro.Date.digits 2 (second % 60) ++
      "+00:00")
  else .error "year is out of range"

def extractNewsTitle (item : RawItem) : String :=
  Events.strip ((orElse item.title (item.content.bind (·.title))).getD "")

/-- The link, else the first link object of the content with an address. -/
def itemUrl (item : RawItem) (content : NewsContent) : Option String :=
  if item.link.getD "" = "" then
    orElse (orElse content.canonicalUrl.join content.clickThroughUrl.join) item.link
  else item.link

/-- The publisher, else the display name of the provider where there is one. -/
def itemPublisher (item : RawItem) (content : NewsContent) : Option String :=
  if item.publisher.getD "" = "" then content.provider.getD item.publisher else item.publisher

def itemPublishedAt (item : RawItem) (content : NewsContent) : Except String (Option String) :=
  match item.providerPublishTime with
  | some epoch => some <$> utcIsoformat epoch
  | none => .ok content.pubDate

/-- `_extract_news_item`; an item without a title is left out. -/
def extractNewsItem (item : RawItem) : Except String (Option NewsItem) :=
  let title := extractNewsTitle item
  let content := item.content.getD {}
  if title = "" then .ok none
  else do
    let publishedAt ← itemPublishedAt item content
    return some ⟨title,itemUrl item content,itemPublisher item content,publishedAt⟩

end Items

section Fetch
variable {β : Type}

/-- The first ten items, those without a title left out; one that raises fails the attempt. -/
def collect (extract : RawItem → Except String (Option β)) (raw : List RawItem) :
    Except String (List β) := (·.filterMap id) <$> (raw.take 10).mapM extract

/-- The news of one ticker and the pauses between its attempts. -/
def fetchTicker (extract : RawItem → Except String (Option β))
    (attempts : ℕ → Except String (List RawItem)) : List β × List ℚ :=
  let tried := retry (fun k => attempts k >>= collect extract) 1 2 0
  let news := match tried.1 with
    | .ok news => news
    | .error _ => []
  (news,tried.2)

abbrev Attempts := String → ℕ → Except String (List RawItem)

def fetchLive (extract : RawItem → Except String (Option β)) (attempts : Attempts) :
    Dict String (List β) :=
  .ofList (liveTickers.map fun p => (p.1,(fetchTicker extract (attempts p.1)).1))

def headlineOf (item : RawItem) : Except String (Option String) :=
  .ok (if extractNewsTitle item = "" then none else some (extractNewsTitle item))

def fetchLiveNews : Attempts → Dict String (List String) := fetchLive headlineOf

def fetchLiveNewsItems : Attempts → Dict String (List NewsItem) := fetchLive extractNewsItem

end Fetch

section Events

/-- An event of the endpoint; a headline has neither entity nor link. -/
structure NewsEvent where
  title : String
  ticker : String
  entity : Option String := none
  source : String
  sourceUrl : Option String := none
  publishedAt : String
  deriving DecidableEq

def headlineEvent (live : Bool) (now : String) (p : String × String) : NewsEvent where
  title := p.2
  ticker := p.1
  source := if live then "live" else "seed"
  publishedAt := now

def itemEvent (now : String) (p : String × NewsItem) : NewsEvent where
  title := p.2.title
  ticker := p.1
  entity := some ((displayNames.lookup p.1).getD p.1)
  source := (orElse p.2.publisher (some "Yahoo Finance")).getD ""
  sourceUrl := p.2.url
  publishedAt := (orElse p.2.publishedAt (some now)).getD ""

/-- `for ticker, items in cache.items(): for item in items` -/
def flat {β : Type} (cache : Dict String (List β)) : List (String × β) :=
  cache.entries.flatMap fun p => p.2.map fun item => (p.1,item)

/-- `events_recent`: the events, cut off at the limit, and the number of all. The clock is read
for each event. -/
def eventsRecent (itemsCache : Dict String (List NewsItem))
    (newsCache tickerNews : Dict String (List String)) (clock : ℕ → String) (limit : ℤ := 15) :
    List NewsEvent × ℕ :=
  let events :=
    if itemsCache.entries ≠ [] then
      (flat itemsCache).mapIdx fun n p => itemEvent (clock n) p
    else
      let live := decide (newsCache.entries ≠ [])
      (flat (if live then newsCache else tickerNews)).mapIdx fun n p =>
        headlineEvent live (clock n) p
  (DatedRows.sliceTo events limit,events.length)

end Events

section Laws
variable {β : Type} {extract : RawItem → Except String (Option β)}

theorem liveTickers_nodup : (liveTickers.map Prod.fst).Nodup := by decide +kernel

theorem fetchLive_entries (extract : RawItem → Except String (Option β)) (attempts : Attempts) :
    (fetchLive extract attempts).entries =
      liveTickers.map fun p => (p.1,(fetchTicker extract (attempts p.1)).1) := by
  apply Dict.entries_ofList
  simpa [Function.comp_def] using liveTickers_nodup

theorem fetchLive_keys (extract : RawItem → Except String (Option β)) (attempts : Attempts) :
    (fetchLive extract attempts).keys = liveTickers.map Prod.fst := by
  simp [Dict.keys,fetchLive_entries,Function.comp_def]

/-- These are the news of the first attempt that succeeds, or none as all three fail. -/
def FirstDelivered (extract : RawItem → Except String (Option β))
    (attempts : ℕ → Except String (List RawItem)) (news : List β) : Prop :=
  (∃ j ≤ 2, (attempts j >>= collect extract) = .ok news ∧
    ∀ i < j, ∃ e, (attempts i >>= collect extract) = .error e) ∨
  (news = [] ∧ ∀ i ≤ 2, ∃ e, (attempts i >>= collect extract) = .error e)

theorem fetchTicker_spec (extract : RawItem → Except String (Option β))
    (attempts : ℕ → Except String (List RawItem)) :
    FirstDelivered extract attempts (fetchTicker extract attempts).1 := by
  have hfetch : (fetchTicker extract attempts).1 =
      match (retry (fun k => attempts k >>= collect extract) 1 2 0).1 with
      | .ok news => news
      | .error _ => [] := rfl
  cases h : (retry (fun k => attempts k >>= collect extract) 1 2 0).1 with
  | ok news =>
    obtain ⟨j,hj,hok,hfailed⟩ := (retry_ok_iff 1 2 0 news).mp h
    left
    refine ⟨j,hj,?_,?_⟩
    · rw [hfetch,h]
      simpa using hok
    · intro i hi
      simpa using hfailed i hi
  | error e =>
    obtain ⟨hlast,hfailed⟩ := (retry_error_iff 1 2 0 e).mp h
    right
    refine ⟨by rw [hfetch,h],?_⟩
    intro i hi
    rcases Nat.lt_or_eq_of_le hi with hlt | rfl
    · simpa using hfailed i hlt
    · exact ⟨e,by simpa using hlast⟩

theorem fetchTicker_pause (extract : RawItem → Except String (Option β))
    (attempts : ℕ → Except String (List RawItem)) :
    (fetchTicker extract attempts).2.sum ≤ 3 := by
  calc (fetchTicker extract attempts).2.sum ≤ 1 * 2 ^ 0 * (2 ^ 2 - 1) :=
        sum_pauses_le zero_le_one 2 0
    _ = 3 := by norm_num

theorem mem_collect {raw : List RawItem} {news : List β} (h : collect extract raw = .ok news) :
    news.length ≤ 10 ∧ ∀ x ∈ news, ∃ item ∈ raw, extract item = .ok (some x) := by
  unfold collect at h
  cases hitems : (raw.take 10).mapM extract with
  | error e =>
    rw [hitems] at h
    cases h
  | ok items =>
    rw [hitems] at h
    cases h
    have hall := Fallible.forall₂_of_mapM hitems
    constructor
    · calc (items.filterMap id).length ≤ items.length := List.length_filterMap_le id items
        _ = (raw.take 10).length := hall.length_eq.symm
        _ ≤ 10 := List.length_take_le 10 raw
    · intro x hx
      obtain ⟨item,hitem,rfl⟩ := List.mem_filterMap.mp hx
      obtain ⟨source,hsource,hextract⟩ := Fallible.exists_left hall hitem
      exact ⟨source,List.mem_of_mem_take hsource,hextract⟩

theorem extractNewsItem_some {item : RawItem} {x : NewsItem}
    (h : extractNewsItem item = .ok (some x)) : x.title = extractNewsTitle item ∧ x.title ≠ "" := by
  unfold extractNewsItem at h
  by_cases hempty : extractNewsTitle item = ""
  · simp [hempty] at h
  · simp only [hempty,if_false] at h
    obtain ⟨publishedAt,-,h⟩ := Fallible.ok_of_bind h
    cases h
    exact ⟨rfl,hempty⟩

end Laws

end MacroInvest.Live
