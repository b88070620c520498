import MacroInvest.Broker.Schema
import MacroInvest.Library.Dict

/-! # The news index

Headlines are stored in a vector collection under a key made of the title alone, with the ticker
they came with, and a search filters by the ticker. A headline given under a second ticker
replaces the row of the first, so the index holds the headline for the last ticker only.
-/
namespace MacroInvest.News
open Broker

/-- `text[:n]` -/
def cut (n : ℕ) (text : String) : String := String.ofList (text.toList.take n)

def hexDigit (c : Char) : ℕ := if c.isDigit then c.toNat - 48 else c.toNat - 87

/-- `int(digits, 16)` -/
def hexValue (digits : List Char) : ℕ := digits.foldl (fun n c => n * 16 + hexDigit c) 0

structure NewsFields where
  id : ℕ
  newsHash : String
  ticker : String
  title : String
  publishedAt : ℤ

structure NewsRow (V : Type) extends NewsFields where
  vector : V

/-- The rows by primary key. -/
abbrev Collection (V : Type) := Dict ℕ (NewsRow V)

/-- The SHA-256 digest of a text, the embedder and the collection's search; `none` is an
exception. A search takes a filter expression and returns rows with their distances. -/
structure Services (V : Type) where
  hexdigest : String → List Char
  embedDocuments : List String → Option (List V)
  embedQuery : String → Option V
  search : Collection V → V → ℕ → Option String → Option (List (NewsRow V × ℚ))

structure Hit where
  ticker : String
  title : String
  publishedAt : ℤ
  score : ℚ

/-- The headlines of a map with their tickers, without the empty ones. -/
def headlinesOf (newsMap : Dict String (List String)) : List (String × String) :=
  newsMap.entries.flatMap (fun p => (p.2.filter (· ≠ "")).map (fun title => (p.1,title)))

section Services
variable {V : Type} (services : Services V)

def newsHash (title : String) : String := String.ofList ((services.hexdigest title).take 16)

def newsHashInt (title : String) : ℕ := hexValue (services.hexdigest title) % 2 ^ 63

def newsFields (publishedAt : ℤ) (ticker title : String) : NewsFields where
  id := newsHashInt services title
  newsHash := newsHash services title
  ticker := cut 16 ticker
  title := cut 512 title
  publishedAt := publishedAt

/-- The rows of a map; the clock is read for each of them. -/
def fieldsOf (clock : ℕ → ℤ) (newsMap : Dict String (List String)) : List NewsFields :=
  (headlinesOf newsMap).mapIdx (fun i p => newsFields services (clock i) p.1 p.2)

/-- `client.upsert`: a row replaces the one with its key. -/
def upsert (collection : Collection V) (rows : List (NewsRow V)) : Collection V :=
  rows.foldl (fun collection row => collection.set row.id row) collection

/-- `_upsert_news_to_milvus`; the index is `none` while it is not ready. -/
def upsertNewsToMilvus (clock : ℕ → ℤ) (newsMap : Dict String (List String))
    (index : Option (Collection V)) : Option (Collection V) × ℕ :=
  match index with
  | none => (none,0)
  | some collection =>
    let fields := fieldsOf services clock newsMap
    if fields.isEmpty then (some collection,0)
    else
      match services.embedDocuments (fields.map NewsFields.title) with
      | none => (some collection,0)
      | some embeddings =>
        if embeddings.length = fields.length then
          (some (upsert collection (List.zipWith NewsRow.mk fields embeddings)),fields.length)
        else (some collection,0)

def tickerFilter (ticker : String) : String := "ticker == \"" ++ ticker ++ "\""

/-- An empty ticker filters nothing. -/
def filterExpr (ticker : Option String) : Option String :=
  (ticker.filter (· ≠ "")).map tickerFilter

def hitOf (result : NewsRow V × ℚ) : Hit where
  ticker := result.1.ticker
  title := result.1.title
  publishedAt := result.1.publishedAt
  score := pyRound 4 result.2

def searchMilvusNews (index : Option (Collection V)) (query : String) (ticker : Option String)
    (topK : ℕ) : List Hit :=
  match index with
  | none => []
  | some collection =>
    let results := (services.embedQuery query).bind (fun vector =>
      services.search collection vector topK (filterExpr ticker))
    (results.getD []).map hitOf

end Services

/-- One call with a map of news. -/
structure Batch where
  clock : ℕ → ℤ
  newsMap : Dict String (List String)

/-- The index after the calls, empty before them. -/
def indexAfter {V : Type} (services : Services V) (batches : List Batch) :
    Option (Collection V) :=
  batches.foldl (fun index b => (upsertNewsToMilvus services b.clock b.newsMap index).1)
    (some .empty)

/-- The tickers and headlines of all calls, in order. -/
def given (batches : List Batch) : List (String × String) :=
  batches.flatMap (fun b => headlinesOf b.newsMap)

/-- The ticker that a headline was last given with. -/
def lastTicker (batches : List Batch) (title : String) : Option String :=
  ((given batches).reverse.find? (fun p => p.2 = title)).map Prod.fst

/-- A text that stands for itself between quotes. -/
def PlainText (text : String) : Prop :=
  text.toList.all (fun c => c ∉ ['"','\\','\n','\r']) = true

instance (text : String) : Decidable (PlainText text) := inferInstanceAs (Decidable (_ = _))

/-- What the embedder and the collection document. -/
structure Documented {V : Type} (services : Services V) : Prop where
  embedsDocuments : ∀ texts, ∃ vectors, services.embedDocuments texts = some vectors ∧
    vectors.length = texts.length
  embedsQuery : ∀ query, ∃ vector, services.embedQuery query = some vector
  searchAll : ∀ collection vector, ∃ ranked : List (NewsRow V × ℚ),
    (ranked.map Prod.fst).Perm collection.values ∧
    ∀ limit, services.search collection vector limit none = some (ranked.take limit)
  searchFiltered : ∀ collection vector ticker, PlainText ticker →
    ∃ ranked : List (NewsRow V × ℚ),
      (ranked.map Prod.fst).Perm (collection.values.filter (fun row => row.ticker = ticker)) ∧
      ∀ limit, services.search collection vector limit (some (tickerFilter ticker)) =
        some (ranked.take limit)

/-- No two of the given titles have one key. -/
def CollisionFree {V : Type} (services : Services V) (batches : List Batch) : Prop :=
  Set.InjOn (newsHashInt services) {title | title ∈ (given batches).map Prod.snd}

/-- Some search with the ticker returns the title as it is stored. -/
def CanReturn {V : Type} (services : Services V) (index : Option (Collection V))
    (ticker title : String) : Prop :=
  ∃ query topK, ∃ hit ∈ searchMilvusNews services index query (some ticker) topK,
    hit.title = cut 512 title

/-- Every headline can be returned under every ticker it was given with. -/
def NothingLost {V : Type} (services : Services V) (batches : List Batch) : Prop :=
  ∀ p ∈ given batches, CanReturn services (indexAfter services batches) p.1 p.2

/-- The text of every headline was last given, in full or beyond what is stored of it, with a
ticker that is stored as the one of the headline; without a ticker nothing is asked. -/
def LastUnderTicker (batches : List Batch) : Prop :=
  ∀ p ∈ given batches, p.1 = "" ∨ ∃ title ticker, cut 512 title = cut 512 p.2 ∧
    lastTicker batches title = some ticker ∧ cut 16 ticker = p.1

/-- What the laws read of a row: its key, ticker and title. -/
def NewsFields.summary (f : NewsFields) : ℕ × String × String := (f.id,f.ticker,f.title)

section Written
variable {V : Type} {services : Services V}

/-- What is written for a headline given with a ticker. -/
def written (services : Services V) (p : String × String) : ℕ × String × String :=
  (newsHashInt services p.2,cut 16 p.1,cut 512 p.2)

theorem summary_fieldsOf (services : Services V) (clock : ℕ → ℤ) (pairs : List (String × String)) :
    (pairs.mapIdx (fun i p => newsFields services (clock i) p.1 p.2)).map NewsFields.summary =
      pairs.map (written services) := by
  induction pairs generalizing clock with
  | nil => rfl
  | cons p pairs ih =>
    rw [List.mapIdx_cons,List.map_cons,List.map_cons,ih (fun i => clock (i + 1))]
    rfl

theorem summary_zipWith {fields : List NewsFields} {vectors : List V}
    (hlength : vectors.length = fields.length) :
    (List.zipWith NewsRow.mk fields vectors).map (fun row => row.summary) =
      fields.map NewsFields.summary := by
  induction fields generalizing vectors with
  | nil => rfl
  | cons f fields ih =>
    cases vectors with
    | nil => cases hlength
    | cons v vectors =>
      rw [List.zipWith_cons_cons,List.map_cons,List.map_cons,ih (Nat.succ_injective hlength)]

/-- A call writes one row for each headline of its map. -/
theorem upsertNews_rows (hdoc : Documented services) (clock : ℕ → ℤ)
    (newsMap : Dict String (List String)) (collection : Collection V) :
    ∃ rows : List (NewsRow V),
      (upsertNewsToMilvus services clock newsMap (some collection)).1 =
        some (upsert collection rows) ∧
      rows.map (fun row => row.summary) = (headlinesOf newsMap).map (written services) := by
  have hsummary := summary_fieldsOf services clock (headlinesOf newsMap)
  rw [← fieldsOf] at hsummary
  rw [← hsummary,upsertNewsToMilvus]
  split
  · rename_i hempty
    exact ⟨[],rfl,by rw [List.isEmpty_iff.mp hempty]; rfl⟩
  · obtain ⟨vectors,hvectors,hlength⟩ :=
      hdoc.embedsDocuments ((fieldsOf services clock newsMap).map NewsFields.title)
    rw [List.length_map] at hlength
    rw [hvectors]
    dsimp only
    rw [if_pos hlength]
    exact ⟨_,rfl,summary_zipWith hlength⟩

/-- The calls write the rows of all given headlines, in order. -/
theorem indexAfter_rows (hdoc : Documented services) (batches : List Batch) :
    ∃ rows : List (NewsRow V), indexAfter services batches = some (upsert .empty rows) ∧
      rows.map (fun row => row.summary) = (given batches).map (written services) := by
  induction batches using List.reverseRecOn with
  | nil => exact ⟨[],rfl,rfl⟩
  | append_singleton batches b ih =>
    obtain ⟨rows,hindex,hrows⟩ := ih
    obtain ⟨rows',hindex',hrows'⟩ := upsertNews_rows hdoc b.clock b.newsMap (upsert .empty rows)
    refine ⟨rows ++ rows',?_,?_⟩
    · rw [indexAfter,List.foldl_append,← indexAfter,hindex,List.foldl_cons,List.foldl_nil,hindex',
        upsert,upsert,upsert,List.foldl_append]
    · rw [List.map_append,hrows,hrows',given,given,List.flatMap_append,List.map_append]
      simp

end Written

section Stored
variable {V : Type} {services : Services V} {batches : List Batch}

/-- What the collection holds under a key is what was last written under it. -/
theorem get?_upsert (rows : List (NewsRow V)) (key : ℕ) :
    ((upsert .empty rows).get? key).map (fun row => row.summary) =
      (rows.map (fun row => row.summary)).reverse.find? (fun s => s.1 = key) := by
  have hset : upsert .empty rows = Dict.setAll (fun row => row.id) rows := rfl
  rw [hset,Dict.get?_setAll,← List.map_reverse,List.find?_map]
  rfl

/-- The pairs of one key are those of one title. -/
theorem find?_key (hfree : CollisionFree services batches) {title : String}
    (htitle : title ∈ (given batches).map Prod.snd) :
    (given batches).reverse.find? (fun p => newsHashInt services p.2 = newsHashInt services title) =
      (given batches).reverse.find? (fun p => p.2 = title) := by
  refine List.find?_congr ?_
  intro p hp
  have hp' : p.2 ∈ (given batches).map Prod.snd := List.mem_map_of_mem (List.mem_reverse.mp hp)
  rw [decide_eq_decide]
  exact hfree.eq_iff hp' htitle

theorem lastTicker_of_given {p : String × String} (hp : p ∈ given batches) :
    ∃ ticker, lastTicker batches p.2 = some ticker := by
  rw [← Option.isSome_iff_exists,lastTicker,Option.isSome_map,List.find?_isSome]
  exact ⟨p,List.mem_reverse.mpr hp,by simp⟩

/-- The rows of the collection are those of the last tickers. -/
theorem exists_row_iff (hdoc : Documented services) (hfree : CollisionFree services batches) :
    ∃ collection, indexAfter services batches = some collection ∧ ∀ a b : String,
      (∃ row ∈ collection.values, row.ticker = a ∧ row.title = b) ↔
        ∃ title ticker, lastTicker batches title = some ticker ∧ cut 16 ticker = a ∧
          cut 512 title = b := by
  obtain ⟨rows,hindex,hrows⟩ := indexAfter_rows hdoc batches
  refine ⟨_,hindex,?_⟩
  have hget : ∀ key, ((upsert .empty rows).get? key).map (fun row => row.summary) =
      ((given batches).reverse.find? (fun p => newsHashInt services p.2 = key)).map
        (written services) := by
    intro key
    rw [get?_upsert,hrows,← List.map_reverse,List.find?_map]
    rfl
  intro a b
  constructor
  · rintro ⟨row,hrow,rfl,rfl⟩
    obtain ⟨key,hkey⟩ := Dict.mem_values_iff.mp hrow
    have hfound := hget key
    rw [hkey,Option.map_some] at hfound
    obtain ⟨p,hp,hwritten⟩ := Option.map_eq_some_iff.mp hfound.symm
    have hmem : p.2 ∈ (given batches).map Prod.snd :=
      List.mem_map_of_mem (List.mem_reverse.mp (List.mem_of_find?_eq_some hp))
    have hhash : newsHashInt services p.2 = key := by simpa using List.find?_some hp
    rw [← hhash,find?_key hfree hmem] at hp
    exact ⟨p.2,p.1,by rw [lastTicker,hp,Option.map_some],congrArg (fun s => s.2.1) hwritten,
      congrArg (fun s => s.2.2) hwritten⟩
  · rintro ⟨title,ticker,hlast,rfl,rfl⟩
    obtain ⟨p,hp,rfl⟩ := Option.map_eq_some_iff.mp hlast
    have htitle : p.2 = title := by simpa using List.find?_some hp
    have hmem : title ∈ (given batches).map Prod.snd :=
      htitle ▸ List.mem_map_of_mem (List.mem_reverse.mp (List.mem_of_find?_eq_some hp))
    have hfound := hget (newsHashInt services title)
    rw [find?_key hfree hmem,hp,Option.map_some] at hfound
    obtain ⟨row,hrow,hsummary⟩ := Option.map_eq_some_iff.mp hfound
    refine ⟨row,Dict.mem_values_iff.mpr ⟨_,hrow⟩,congrArg (fun s => s.2.1) hsummary,?_⟩
    rw [← htitle]
    exact congrArg (fun s => s.2.2) hsummary

end Stored

section Search
variable {V : Type} {services : Services V} {collection : Collection V}

theorem filterExpr_some (ticker : String) :
    filterExpr (some ticker) = if ticker = "" then none else some (tickerFilter ticker) := by
  by_cases h : ticker = ""
  · subst h
    rfl
  · have hkept : (some ticker).filter (· ≠ "") = some ticker :=
      Option.filter_eq_some_iff.mpr ⟨rfl,decide_eq_true h⟩
    rw [filterExpr,hkept,Option.map_some,if_neg h]

/-- A search with room for all rows returns every row that the ticker lets through. -/
theorem canReturn_iff (hdoc : Documented services) {ticker : String} (hplain : PlainText ticker)
    (title : String) : CanReturn services (some collection) ticker title ↔
      ∃ row ∈ collection.values, (ticker = "" ∨ row.ticker = ticker) ∧
        row.title = cut 512 title := by
  have hfiltered : ∀ vector, ∃ ranked : List (NewsRow V × ℚ),
      (∀ row, row ∈ ranked.map Prod.fst ↔
        row ∈ collection.values ∧ (ticker = "" ∨ row.ticker = ticker)) ∧
      ∀ limit, services.search collection vector limit (filterExpr (some ticker)) =
        some (ranked.take limit) := by
    intro vector
    by_cases hempty : ticker = ""
    · obtain ⟨ranked,hperm,hsearch⟩ := hdoc.searchAll collection vector
      refine ⟨ranked,?_,?_⟩
      · intro row
        rw [hperm.mem_iff]
        simp [hempty]
      · rwa [filterExpr_some,if_pos hempty]
    · obtain ⟨ranked,hperm,hsearch⟩ := hdoc.searchFiltered collection vector ticker hplain
      refine ⟨ranked,?_,?_⟩
      · intro row
        rw [hperm.mem_iff]
        simp [hempty]
      · rwa [filterExpr_some,if_neg hempty]
  constructor
  · rintro ⟨query,topK,hit,hhit,htitle⟩
    obtain ⟨vector,hvector⟩ := hdoc.embedsQuery query
    obtain ⟨ranked,hranked,hsearch⟩ := hfiltered vector
    rw [searchMilvusNews,hvector,Option.bind_some,hsearch,Option.getD_some] at hhit
    obtain ⟨result,hresult,rfl⟩ := List.mem_map.mp hhit
    have hrow := (hranked result.1).mp (List.mem_map_of_mem (List.mem_of_mem_take hresult))
    exact ⟨result.1,hrow.1,hrow.2,htitle⟩
  · rintro ⟨row,hrow,hticker,htitle⟩
    obtain ⟨vector,hvector⟩ := hdoc.embedsQuery ""
    obtain ⟨ranked,hranked,hsearch⟩ := hfiltered vector
    obtain ⟨result,hresult,rfl⟩ := List.mem_map.mp ((hranked row).mpr ⟨hrow,hticker⟩)
    refine ⟨"",ranked.length,hitOf result,?_,htitle⟩
    rw [searchMilvusNews,hvector,Option.bind_some,hsearch,Option.getD_some,List.take_length]
    exact List.mem_map_of_mem hresult

end Search

/-- The index loses nothing in a run exactly where every headline was last given under the ticker
that is asked for. -/
theorem news_index_law {V : Type} (services : Services V) (hdoc : Documented services)
    (batches : List Batch) (hfree : CollisionFree services batches)
    (hplain : ∀ p ∈ given batches, PlainText p.1) :
    NothingLost services batches ↔ LastUnderTicker batches := by
  obtain ⟨collection,hindex,hrows⟩ := exists_row_iff hdoc hfree
  refine forall₂_congr ?_
  intro p hp
  rw [hindex,canReturn_iff hdoc (hplain p hp)]
  by_cases hempty : p.1 = ""
  · refine iff_of_true ?_ (.inl hempty)
    obtain ⟨ticker,hlast⟩ := lastTicker_of_given hp
    obtain ⟨row,hrow,-,htitle⟩ := (hrows _ _).mpr ⟨p.2,ticker,hlast,rfl,rfl⟩
    exact ⟨row,hrow,.inl hempty,htitle⟩
  · simp only [hempty,false_or]
    rw [hrows]
    constructor
    · rintro ⟨title,ticker,hlast,hticker,htitle⟩
      exact ⟨title,ticker,htitle,hlast,hticker⟩
    · rintro ⟨title,ticker,htitle,hlast,hticker⟩
      exact ⟨title,ticker,hlast,hticker,htitle⟩

section LocalServices

def atNoDistance (rows : List (NewsRow Unit)) : List (NewsRow Unit × ℚ) :=
  rows.map (fun row => (row,0))

def localSearch (collection : Collection Unit) (limit : ℕ) (filter : Option String) :
    List (NewsRow Unit × ℚ) :=
  match filter with
  | none => (atNoDistance collection.values).take limit
  | some expr => (atNoDistance (collection.values.filter (fun row =>
      tickerFilter row.ticker = expr))).take limit

def localDigest (title : String) : List Char :=
  if title = "Fed holds rates" then
    "e63d4c5ce3d644bb95def565e48c52d82a8a97a98f0f1adc7d9e77803fa6828f".toList
  else "7fa623d528c30a24c6c3de684c95458e8613df7e3df50edcba9b39bbb57047e1".toList

/-- The digests of two titles, one vector for every text, and a search that compares the filter
with the one of each row. -/
def localServices : Services Unit where
  hexdigest := localDigest
  embedDocuments texts := some (texts.map (fun _ => ()))
  embedQuery _ := some ()
  search collection _ limit filter := some (localSearch collection limit filter)

theorem atNoDistance_fst (rows : List (NewsRow Unit)) : (atNoDistance rows).map Prod.fst = rows := by
  rw [atNoDistance,List.map_map]
  exact List.map_id rows

theorem tickerFilter_injective : Function.Injective tickerFilter := by
  intro a b h
  have htext := congrArg String.toList h
  simp only [tickerFilter,String.toList_append] at htext
  exact String.toList_inj.mp (List.append_cancel_left (List.append_cancel_right htext))

theorem localServices_documented : Documented localServices := by
  refine ⟨?_,?_,?_,?_⟩
  · intro texts
    exact ⟨_,rfl,List.length_map _⟩
  · intro query
    exact ⟨(),rfl⟩
  · intro collection vector
    exact ⟨atNoDistance collection.values,by rw [atNoDistance_fst],fun _ => rfl⟩
  · intro collection vector ticker _
    refine ⟨atNoDistance (collection.values.filter (fun row => row.ticker = ticker)),
      by rw [atNoDistance_fst],?_⟩
    intro limit
    have hsearch : localSearch collection limit (some (tickerFilter ticker)) =
        (atNoDistance (collection.values.filter (fun row => row.ticker = ticker))).take limit := by
      simp only [localSearch,tickerFilter_injective.eq_iff]
    exact congrArg some hsearch

end LocalServices

def newYearBatch (newsMap : Dict String (List String)) : Batch := ⟨fun _ => 1767225600,newsMap⟩

/-- One headline for each of two tickers. -/
def quietDay : List Batch :=
  [newYearBatch ((Dict.empty.set "AAPL" ["Apple beats estimates"]).set "MSFT" ["Fed holds rates"])]

/-- One headline for both of them. -/
def sharedDay : List Batch :=
  [newYearBatch ((Dict.empty.set "AAPL" ["Fed holds rates"]).set "MSFT" ["Fed holds rates"])]

theorem news_index_law_quietDay : NothingLost localServices quietDay := by
  have hgiven : given quietDay =
      [("AAPL","Apple beats estimates"),("MSFT","Fed holds rates")] := by decide +kernel
  have hdigests : newsHashInt localServices "Apple beats estimates" ≠
      newsHashInt localServices "Fed holds rates" := by decide +kernel
  have hfree : CollisionFree localServices quietDay := by
    intro a ha b hb hsame
    simp only [hgiven,List.map_cons,List.map_nil,Set.mem_ofPred_eq,List.mem_cons,List.not_mem_nil,
      or_false] at ha hb
    rcases ha with rfl | rfl <;> rcases hb with rfl | rfl
    · rfl
    · exact absurd hsame hdigests
    · exact absurd hsame.symm hdigests
    · rfl
  have hplain : ∀ p ∈ given quietDay, PlainText p.1 := by
    rw [hgiven]
    decide +kernel
  refine (news_index_law localServices localServices_documented quietDay hfree hplain).mpr ?_
  intro p hp
  rw [hgiven] at hp
  rcases List.mem_cons.mp hp with rfl | hp
  · exact .inr ⟨_,"AAPL",rfl,by decide +kernel,by decide +kernel⟩
  · rw [List.mem_singleton.mp hp]
    exact .inr ⟨_,"MSFT",rfl,by decide +kernel,by decide +kernel⟩

/-- A search with the first ticker finds nothing. -/
theorem sharedDay_lost : ¬NothingLost localServices sharedDay := by
  have hgiven : ("AAPL","Fed holds rates") ∈ given sharedDay := by decide +kernel
  have htickers : (indexAfter localServices sharedDay).map (fun collection =>
      collection.values.map (fun row => row.ticker)) = some ["MSFT"] := by decide +kernel
  intro hlaw
  have hreturn := hlaw _ hgiven
  obtain ⟨collection,hindex,hrows⟩ := Option.map_eq_some_iff.mp htickers
  rw [hindex,canReturn_iff localServices_documented (by decide +kernel)] at hreturn
  obtain ⟨row,hrow,hticker,-⟩ := hreturn
  have hmem : row.ticker ∈ ["MSFT"] := hrows ▸ List.mem_map_of_mem hrow
  rcases hticker with hempty | hticker
  · exact absurd hempty (by decide)
  · rw [hticker] at hmem
    exact absurd hmem (by decide)

end MacroInvest.News
