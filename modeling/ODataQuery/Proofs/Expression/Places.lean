import ODataQuery.Proofs.Expression.Scanning

/-! Where tokens stand in a text. Positions count the bytes in front of a token, so that each token has
its slice of the text: the slices lie one behind the other, each looks as its token does, and only
blanks lie between them. Reading stops where no token begins, and what stands in front of that place
is a text that can be read. -/
namespace ODataQuery.Expression

theorem byteLength_append (front back : List Char) :
    byteLength (front ++ back) = byteLength front + byteLength back := by
  induction front with
  | nil => simp [byteLength]
  | cons c front ih =>
    simp only [byteLength, List.cons_append, List.foldr_cons] at ih ⊢
    omega

theorem byteLength_cons (c : Char) (cs : List Char) :
    byteLength (c :: cs) = c.utf8Size + byteLength cs := rfl

theorem byteLength_pos {cs : List Char} (some : cs ≠ []) : 0 < byteLength cs := by
  obtain ⟨c, rest, rfl⟩ := List.exists_cons_of_ne_nil some
  have size := c.utf8Size_pos
  rw [byteLength_cons]
  omega

theorem utf8ByteSize_ofList (cs : List Char) : (String.ofList cs).utf8ByteSize = byteLength cs := by
  induction cs with
  | nil => rfl
  | cons c cs ih =>
    rw [String.ofList_cons, String.utf8ByteSize_append, String.utf8ByteSize_singleton, ih,
      byteLength_cons]

/-- The end of the front of a text is a boundary of its characters. -/
theorem isValid_byteLength {s : String} {front back : List Char}
    (whole : s.toList = front ++ back) :
    String.Pos.Raw.IsValid s ⟨byteLength front⟩ := by
  refine String.Pos.Raw.isValid_iff_exists_append.mpr
    ⟨String.ofList front, String.ofList back, ?_, ?_⟩
  · rw [← String.ofList_append, ← whole, String.ofList_toList]
  · rw [String.rawEndPos, utf8ByteSize_ofList]

/-- A stretch of a text, with what stands in front of it and behind it. -/
structure Slice (text : List Char) where
  before : List Char
  source : List Char
  behind : List Char
  whole : text = before ++ (source ++ behind)

namespace Slice

variable {text : List Char}

def start (slice : Slice text) : Nat := byteLength slice.before

def stop (slice : Slice text) : Nat := slice.start + byteLength slice.source

end Slice

def IsQuote (c : Char) : Prop := c = '\'' ∨ c = '"'

/-- What the source of a token looks like: a word and a symbol are written as they are, and a quoted
text stands between two quotes of one kind. -/
def Token.Fits : Token → List Char → Prop
  | word w, source => source = w.toList
  | quoted _, source => ∃ quote inner, IsQuote quote ∧ source = quote :: (inner ++ [quote])
  | symbol s, source => source = s.text.toList
  | openParen, source => source = ['(']
  | closeParen, source => source = [')']
  | comma, source => source = [',']

theorem Spelled.fits {t : Token} {source left : List Char} (h : Spelled t source left) :
    t.Fits source := by
  cases h with
  | openParen | closeParen | comma | symbol => rfl
  | single => exact ⟨'\'', _, .inl rfl, rfl⟩
  | @double source _ _ read =>
    obtain ⟨inner, rfl⟩ := List.getLast?_eq_some_iff.mp (Lexeme.doubleQuoted?_last read)
    exact ⟨'"', inner, .inr rfl, rfl⟩
  | word => exact String.toList_ofList.symm

/-- A token stands at a slice that looks as it does. -/
structure Shows {text : List Char} (placed : Placed) (slice : Slice text) : Prop where
  position : placed.position = slice.start
  fits : placed.token.Fits slice.source
  spelled : Spelled placed.token slice.source slice.behind

theorem map_position {text : List Char} {tokens : List Placed} {slices : List (Slice text)}
    (shows : List.Forall₂ Shows tokens slices) :
    tokens.map Placed.position = slices.map Slice.start := by
  induction shows with
  | nil => rfl
  | cons first _ ih => rw [List.map_cons, first.position, ih, List.map_cons]

/-- The tokens of a text from a position on, with their slices. -/
structure Laid {text : List Char} (position : Nat) (tokens : List Placed)
    (slices : List (Slice text)) : Prop where
  shows : List.Forall₂ Shows tokens slices
  later : ∀ slice ∈ slices, position ≤ slice.start
  increasing : slices.Pairwise (·.start < ·.start)
  apart : slices.Pairwise (·.stop ≤ ·.start)
  outside : ∀ before c behind, text = before ++ c :: behind → position ≤ byteLength before →
    Text.isBlank c = true ∨
      ∃ slice ∈ slices, slice.start ≤ byteLength before ∧ byteLength before < slice.stop

section

variable {text done : List Char} {tokens : List Placed} {slices : List (Slice text)}

theorem laid_nil (whole : text = done) : Laid (byteLength done) [] ([] : List (Slice text)) where
  shows := .nil
  later _ member := by cases member
  increasing := .nil
  apart := .nil
  outside before c behind split inside := by
    have size := c.utf8Size_pos
    have bytes := congrArg byteLength (whole.symm.trans split)
    rw [byteLength_append, byteLength_cons] at bytes
    omega

/-- A character that begins behind one part of a text is not in that part. -/
theorem exists_behind {front back before behind : List Char} {c : Char}
    (split : front ++ back = before ++ c :: behind) (inside : byteLength front ≤ byteLength before) :
    ∃ between, before = front ++ between ∧ back = between ++ c :: behind := by
  rcases List.append_eq_append_iff.mp split with ⟨between, rfl, rfl⟩ | ⟨between, rfl, rest⟩
  · exact ⟨between, rfl, rfl⟩
  · cases between with
    | nil => exact ⟨[], by simp, by simpa using rest.symm⟩
    | cons d between =>
      have size := d.utf8Size_pos
      rw [byteLength_append, byteLength_cons] at inside
      omega

theorem Laid.blank {c : Char} {rest : List Char} (whole : text = done ++ c :: rest)
    (blank : Text.isBlank c = true) (tail : Laid (byteLength done + c.utf8Size) tokens slices) :
    Laid (byteLength done) tokens slices where
  shows := tail.shows
  later slice member := by
    have later := tail.later slice member
    omega
  increasing := tail.increasing
  apart := tail.apart
  outside before d behind split inside := by
    obtain ⟨between, rfl, back⟩ := exists_behind (whole.symm.trans split) inside
    cases between with
    | nil =>
      cases back
      exact .inl blank
    | cons e between =>
      cases back
      refine tail.outside _ d behind split ?_
      rw [byteLength_append, byteLength_cons]
      omega

theorem Laid.token {t : Token} {source left : List Char} (whole : text = done ++ (source ++ left))
    (spelled : Spelled t source left)
    (tail : Laid (byteLength done + byteLength source) tokens slices) :
    Laid (byteLength done) (⟨byteLength done, t⟩ :: tokens)
      (⟨done, source, left, whole⟩ :: slices) where
  shows := .cons ⟨rfl, spelled.fits, spelled⟩ tail.shows
  later slice member := by
    rcases List.mem_cons.mp member with rfl | member
    · exact Nat.le_refl _
    · have later := tail.later slice member
      omega
  increasing := by
    refine .cons (fun slice member => ?_) tail.increasing
    have later := tail.later slice member
    have size := byteLength_pos spelled.ne_nil
    change byteLength done < slice.start
    omega
  apart := .cons (fun slice member => tail.later slice member) tail.apart
  outside before c behind split inside := by
    rcases Nat.lt_or_ge (byteLength before) (byteLength done + byteLength source) with within | after
    · exact .inr ⟨_, List.mem_cons_self, inside, within⟩
    · rcases tail.outside before c behind split after with blank | ⟨slice, member, covers⟩
      · exact .inl blank
      · exact .inr ⟨slice, List.mem_cons_of_mem _ member, covers⟩

end

/-- The tokens that are read from some place of a text on have their slices there. -/
theorem exists_laid {text : List Char} {position : Nat} {cs : List Char} {tokens : List Placed}
    (read : tokensFrom position cs = .ok tokens) (done : List Char) (whole : text = done ++ cs)
    (bytes : position = byteLength done) :
    ∃ slices : List (Slice text), Laid (byteLength done) tokens slices := by
  fun_induction tokensFrom position cs generalizing done tokens with
  | case1 =>
    cases read
    exact ⟨[], laid_nil (by simpa using whole)⟩
  | case2 position c rest blank ih =>
    have size : position + c.utf8Size = byteLength (done ++ [c]) := by
      rw [byteLength_append, bytes]
      rfl
    obtain ⟨slices, tail⟩ := ih read (done ++ [c]) (by simpa using whole) size
    rw [← size, bytes] at tail
    exact ⟨slices, tail.blank whole blank⟩
  | case3 => cases read
  | case4 position c rest notBlank l lexeme ih =>
    obtain ⟨spelled, text⟩ := Lexeme.read_spelled lexeme
    cases more : tokensFrom (position + byteLength l.source) l.rest with
    | error e => rw [more] at read; cases read
    | ok tokens =>
      rw [more] at read
      cases read
      have size : position + byteLength l.source = byteLength (done ++ l.source) := by
        rw [byteLength_append, bytes]
      rw [text] at whole
      obtain ⟨slices, tail⟩ := ih more (done ++ l.source) (by simpa using whole) size
      rw [← size, bytes] at tail
      rw [bytes]
      exact ⟨_, tail.token whole spelled⟩

/-- No token begins at the front of these characters, and no blank stands there. -/
structure NoToken (c : Char) (behind : List Char) : Prop where
  notBlank : Text.isBlank c = false
  unspelled : ∀ t source left, c :: behind = source ++ left → ¬ Spelled t source left

/-- What is reported about a character at which no token begins: where it stands, and which one it is
unless it opens a quoted text that has no end. -/
inductive Reported (position : Nat) (c : Char) : FilterError → Prop
  | unexpected : ¬ IsQuote c → Reported position c (.unexpectedCharacter c position)
  | unterminated : IsQuote c → Reported position c (.unterminatedString position)

theorem Lexeme.read_reported {position : Nat} {c : Char} {cs : List Char} {e : FilterError}
    (h : read position c cs = .error e) : Reported position c e := by
  unfold read at h
  split at h
  · cases h
  split at h
  · cases h
  split at h
  · cases h
  split at h
  · rename_i single
    split at h
    · cases h
    · cases h
      exact .unterminated (.inl single)
  split at h
  · rename_i double
    split at h
    · cases h
    · cases h
      exact .unterminated (.inr double)
  rename_i notSingle notDouble
  split at h
  · cases h
  split at h
  · cases h
  · cases h
    exact .unexpected fun quote => quote.elim notSingle notDouble

theorem Lexeme.unspelled_of_error {position : Nat} {c : Char} {cs : List Char} {e : FilterError}
    (h : read position c cs = .error e) (t : Token) (source left : List Char)
    (split : c :: cs = source ++ left) : ¬ Spelled t source left := by
  intro spelled
  have read := spelled.read split position
  rw [h] at read
  cases read

/-- Reading that fails has read the text up to the place that is reported. -/
theorem exists_reported {position : Nat} {cs : List Char} {e : FilterError}
    (failed : tokensFrom position cs = .error e) :
    ∃ front c behind ts, cs = front ++ c :: behind ∧ Scans front ts [] ∧ NoToken c behind ∧
      Reported (position + byteLength front) c e := by
  fun_induction tokensFrom position cs with
  | case1 => cases failed
  | case2 position c rest blank ih =>
    obtain ⟨front, d, behind, ts, rfl, scans, noToken, reported⟩ := ih failed
    rw [Nat.add_assoc, ← byteLength_cons] at reported
    exact ⟨c :: front, d, behind, ts, rfl, .blank blank scans, noToken, reported⟩
  | case3 position c rest notBlank e read =>
    cases failed
    exact ⟨[], c, rest, [], rfl, .done, ⟨by simpa using notBlank, Lexeme.unspelled_of_error read⟩,
      Lexeme.read_reported read⟩
  | case4 position c rest notBlank l lexeme ih =>
    obtain ⟨spelled, text⟩ := Lexeme.read_spelled lexeme
    cases more : tokensFrom (position + byteLength l.source) l.rest with
    | ok tokens => rw [more] at failed; cases failed
    | error e =>
      rw [more] at failed
      cases failed
      obtain ⟨front, d, behind, ts, left, scans, noToken, reported⟩ := ih more
      rw [Nat.add_assoc, ← byteLength_append] at reported
      refine ⟨l.source ++ front, d, behind, l.token :: ts, by rw [text, left, List.append_assoc],
        .token (spelled.before fun c head => ?_) scans, noToken, reported⟩
      -- what follows the token is the same, unless nothing does
      cases front with
      | nil => cases head
      | cons b front => exact .inl (by rw [left]; exact head)

/-- Tokens stand in order at boundaries of characters. Each has a slice of the text that looks as it
does, no two slices overlap, and what no slice covers is blank. Where reading fails, the report is about
a character at which no token begins, at the boundary in front of it, and the text up to there can be
read. -/
theorem tokenize_places (s : String) :
    match tokenize s with
    | .ok tokens =>
      (tokens.Pairwise fun a b => a.position < b.position) ∧
      (∀ placed ∈ tokens, String.Pos.Raw.IsValid s ⟨placed.position⟩) ∧
      ∃ slices : List (Slice s.toList), List.Forall₂ Shows tokens slices ∧
        (slices.Pairwise fun a b => a.stop ≤ b.start) ∧
        ∀ before c behind, s.toList = before ++ c :: behind → Text.isBlank c = true ∨
          ∃ slice ∈ slices, slice.start ≤ byteLength before ∧ byteLength before < slice.stop
    | .error e =>
      ∃ before c behind, s.toList = before ++ c :: behind ∧ NoToken c behind ∧
        Reported (byteLength before) c e ∧ String.Pos.Raw.IsValid s ⟨byteLength before⟩ ∧
        ∃ tokens, tokenize (String.ofList before) = .ok tokens := by
  split
  · rename_i tokens read
    obtain ⟨slices, shows, -, increasing, apart, outside⟩ := exists_laid read [] rfl rfl
    have positions := map_position shows
    refine ⟨?_, fun placed member => ?_, slices, shows, apart, fun before c behind split => ?_⟩
    · rw [← List.pairwise_map (f := Placed.position), positions, List.pairwise_map]
      exact increasing
    · have begins : placed.position ∈ slices.map Slice.start :=
        positions ▸ List.mem_map_of_mem member
      obtain ⟨slice, -, same⟩ := List.mem_map.mp begins
      rw [← same]
      exact isValid_byteLength slice.whole
    · exact outside before c behind split (Nat.zero_le _)
  · rename_i e failed
    obtain ⟨before, c, behind, ts, split, scans, noToken, reported⟩ := exists_reported failed
    rw [Nat.zero_add] at reported
    rw [← String.toList_ofList (l := before)] at scans
    obtain ⟨tokens, read, -⟩ := tokenize_iff.mpr scans
    exact ⟨before, c, behind, split, noToken, reported, isValid_byteLength split, tokens, read⟩

end ODataQuery.Expression
