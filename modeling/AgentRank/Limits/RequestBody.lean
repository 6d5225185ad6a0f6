import AgentRank.Limits.Encoding
import AgentRank.Representation.JsonText

/-!
# Refusing a request body

This module models the middleware that refuses a request body before anything reads it, by the
path it is sent to, its declared length, its actual length and its nesting.

The server delivers the body as a list of messages and reports the disconnection behind them.
Routing is not part of the program.  It is a parameter, together with what is documented of how
it treats the path that the application is mounted at.
-/

namespace AgentRank.Limits

open Constraints Representation

/-- What one bounded path will accept, in bytes and in nesting levels. -/
structure BodyLimit where
  maxBytes : Nat
  maxDepth : Nat
deriving DecidableEq

def bodiedMethods : List String := ["POST", "PUT", "PATCH"]

/-- What the server says about a request, its headers as bytes. -/
structure Scope where
  type : String := "http"
  method : String
  path : String
  rootPath : String := ""
  headers : List (List Nat × List Nat)

/-- What the server delivers of a request. -/
inductive Message
  | request (body : List Nat) (moreBody : Bool)
  | disconnect

/-- What `receive` answers, each time it is asked. -/
abbrev Receive :=
  Nat → Message

/-- The messages of the server, and then the disconnection. -/
def delivered (messages : List Message) : Receive := fun asked =>
  messages.getD asked .disconnect

/-- `_replay`: the body once, and then the disconnection. -/
def replay (body : List Nat) : Receive
  | 0 => .request body false
  | _ + 1 => .disconnect

/-- What the middleware does: it calls the application, or it sends a part of an answer. -/
inductive Effect
  | call (receive : Receive)
  | start (status : Nat) (headers : List (String × String))
  | body (text : String)

/-- One trailing slash removed. -/
def withoutSlash (path : List Char) : List Char :=
  if 1 < path.length ∧ path.getLast? = some '/' then path.dropLast else path

/-- `_path`. -/
def pathKey (scope : Scope) : List Char :=
  let path := scope.path.toList
  let root := scope.rootPath.toList
  let path :=
    if root ≠ [] ∧ root.isPrefixOf path then
      if path.drop root.length = [] then ['/'] else path.drop root.length
    else path
  withoutSlash path

def lowerByte (byte : Nat) : Nat :=
  if 65 ≤ byte ∧ byte ≤ 90 then byte + 32 else byte

def contentLength : List Nat :=
  "content-length".toList.map Char.toNat

def isSpaceByte (byte : Nat) : Bool :=
  byte = 32 ∨ (9 ≤ byte ∧ byte ≤ 13)

/-- Digits, with single underscores between them. -/
def groupedDigits : Bool → List Nat → Option (List Nat)
  | afterDigit, [] => if afterDigit then some [] else none
  | afterDigit, byte :: rest =>
      if isDigit byte then (byte :: ·) <$> groupedDigits true rest
      else if byte = 95 ∧ afterDigit then groupedDigits false rest
      else none

/-- `int`, of bytes. -/
def intOfBytes (value : List Nat) : Option Int := do
  let trimmed := (value.dropWhile isSpaceByte).rdropWhile isSpaceByte
  let digits ← groupedDigits false (dropSign trimmed)
  if maxIntegerDigits < digits.length then none
  else
    let magnitude : Nat := digits.foldl (fun whole digit => 10 * whole + (digit - 48)) 0
    return if trimmed.head? = some 45 then -(magnitude : Int) else magnitude

/-- `_declared_length`. -/
def declaredLength (scope : Scope) : Option Nat :=
  match scope.headers.filter fun header => header.1.map lowerByte = contentLength with
  | [header] =>
      match intOfBytes header.2 with
      | some length => if 0 ≤ length then some length.toNat else none
      | none => none
  | _ => none

/-- The rest of the body, behind what was drained so far. -/
def drainFrom (maxBytes : Nat) : List Nat → List Message → Option (List Nat)
  | chunks, .request chunk moreBody :: rest =>
      if maxBytes < chunks.length + chunk.length then none
      else if moreBody then drainFrom maxBytes (chunks ++ chunk) rest
      else some (chunks ++ chunk)
  | chunks, .disconnect :: _ => some chunks
  | chunks, [] => some chunks

/-- `_drain`. -/
def drain (messages : List Message) (maxBytes : Nat) : Option (List Nat) :=
  drainFrom maxBytes [] messages

/-- `_refuse`. -/
def refuse (status : Nat) (reason detail : String) : List Effect :=
  let payload : List (String × Json) :=
    [("error", .scalar (.string reason)), ("detail", .scalar (.string detail)),
      ("resource", .null), ("identifier", .null)]
  let payload := if status = 422 then payload ++ [("fields", .array [])] else payload
  let body := (dumps spaced (.object payload)).getD ""
  [.start status
      [("content-type", "application/json"), ("content-length", toString body.utf8ByteSize)],
    .body body]

structure RequestBodyLimit where
  limits : List ((String × List Char) × BodyLimit)
  default : Option BodyLimit

namespace RequestBodyLimit

/-- The bound of a method and a path: the one that is named, or else the general one. -/
def limitAt (middleware : RequestBodyLimit) (method : String) (path : List Char) :
    Option BodyLimit :=
  match middleware.limits.lookup (method, path) with
  | some limit => some limit
  | none => if method ∈ bodiedMethods then middleware.default else none

/-- `__call__`. -/
def call (middleware : RequestBodyLimit) (scope : Scope) (messages : List Message) :
    List Effect :=
  if scope.type ≠ "http" then
    [.call (delivered messages)]
  else
    match middleware.limitAt scope.method (pathKey scope) with
    | none => [.call (delivered messages)]
    | some limit =>
        match declaredLength scope with
        | none => refuse 411 "length_required" "this request must declare its content length"
        | some declared =>
            let tooLarge := refuse 413 "request_too_large"
              ("this request may be at most " ++ toString limit.maxBytes ++ " bytes")
            if limit.maxBytes < declared then tooLarge
            else
              match drain messages limit.maxBytes with
              | none => tooLarge
              | some body =>
                  if withinDepth body limit.maxDepth then [.call (replay body)]
                  else
                    refuse 422 "request_too_deeply_nested"
                      ("this request may nest at most " ++ toString limit.maxDepth ++ " levels")

end RequestBodyLimit

/-- The bounds of the application. -/
def requestBodyLimit : RequestBodyLimit where
  limits :=
    [(("POST", "/api/v1/sources".toList), ⟨128 * 1024, 12⟩),
      (("POST", "/api/v1/sources/imports".toList), ⟨16 * 1024, 6⟩)]
  default := some ⟨64 * 1024, 12⟩

/-- The path that routing compares with the paths of the routes.  What the application is mounted
at is removed where the path goes on behind it, and a path that does not begin with it is kept. -/
structure Routing where
  routePath : List Char → List Char → List Char
  outside : ∀ {root path}, root = [] ∨ ¬root <+: path → routePath root path = path
  inside : ∀ {root} rest, root ≠ [] → routePath root (root ++ '/' :: rest) = '/' :: rest
  mount : ∀ {root}, root ≠ [] → routePath root root = [] ∨ routePath root root = ['/']

/-- The bound declared for the route that routing selects.  A path with a trailing slash leads to
the route without it. -/
def Routing.declared (routing : Routing) (middleware : RequestBodyLimit) (scope : Scope) :
    Option BodyLimit :=
  middleware.limitAt scope.method
    (withoutSlash (routing.routePath scope.rootPath.toList scope.path.toList))

/-- The path is that of the mount itself, goes on behind it with a slash, or does not begin with
it. -/
def AtBoundary (root path : List Char) : Prop :=
  root = [] ∨ ¬root <+: path ∨ path = root ∨ ∃ rest, path = root ++ '/' :: rest

/-- The bytes of a body up to its end or the disconnection. -/
def received : List Message → List Nat
  | .request chunk moreBody :: rest => if moreBody then chunk ++ received rest else chunk
  | .disconnect :: _ => []
  | [] => []

theorem drainFrom_eq {maxBytes : Nat} {chunks : List Nat} (messages : List Message)
    (within : chunks.length ≤ maxBytes) :
    drainFrom maxBytes chunks messages =
      if (chunks ++ received messages).length ≤ maxBytes then some (chunks ++ received messages)
      else none := by
  induction messages generalizing chunks with
  | nil => simp [drainFrom, received, within]
  | cons message rest ih =>
      cases message with
      | disconnect => simp [drainFrom, received, within]
      | request chunk moreBody =>
          rw [drainFrom, received]
          by_cases above : maxBytes < chunks.length + chunk.length
          · rw [if_pos above, if_neg]
            cases moreBody <;> simp <;> omega
          · have fits : (chunks ++ chunk).length ≤ maxBytes := by
              rw [List.length_append]
              exact Nat.not_lt.mp above
            rw [if_neg above]
            cases moreBody with
            | true =>
                rw [if_pos rfl, if_pos rfl, ih fits, List.append_assoc]
            | false =>
                rw [if_neg Bool.false_ne_true, if_neg Bool.false_ne_true, if_pos fits]

/-- The body is drained exactly when it is within the bound. -/
theorem drain_eq_some_iff {messages : List Message} {maxBytes : Nat} {body : List Nat} :
    drain messages maxBytes = some body ↔ body = received messages ∧ body.length ≤ maxBytes := by
  rw [drain, drainFrom_eq messages (Nat.zero_le _), List.nil_append]
  split
  · next within =>
      rw [Option.some.injEq]
      constructor
      · rintro rfl
        exact ⟨rfl, within⟩
      · exact fun both => both.1.symm
  · next above =>
      constructor
      · nofun
      · rintro ⟨rfl, within⟩
        exact absurd within above

/-- One complete answer, which the application has no part in. -/
def IsRefusal (status : Nat) (effects : List Effect) : Prop :=
  ∃ text : String, effects =
    [.start status
        [("content-type", "application/json"), ("content-length", toString text.utf8ByteSize)],
      .body text]

theorem isRefusal_refuse (status : Nat) (reason detail : String) :
    IsRefusal status (refuse status reason detail) :=
  ⟨_, rfl⟩

/-- What the middleware does under a bound. -/
inductive Bounded (limit : BodyLimit) (messages : List Message) (effects : List Effect) : Prop
  | called (whole : effects = [.call (replay (received messages))])
      (size : (received messages).length ≤ limit.maxBytes)
      (depth : withinDepth (received messages) limit.maxDepth = true)
  | refused (status : Nat) (answer : IsRefusal status effects)
      (deep : status = 422 → withinDepth (received messages) limit.maxDepth = false)

theorem bounded_call {middleware : RequestBodyLimit} {scope : Scope} {limit : BodyLimit}
    (http : scope.type = "http")
    (limited : middleware.limitAt scope.method (pathKey scope) = some limit)
    (messages : List Message) : Bounded limit messages (middleware.call scope messages) := by
  rw [RequestBodyLimit.call, if_neg (not_not.mpr http), limited]
  dsimp only
  have tooLarge : ∀ reason detail, Bounded limit messages (refuse 413 reason detail) :=
    fun reason detail => .refused 413 (isRefusal_refuse _ _ _) nofun
  split
  · exact .refused 411 (isRefusal_refuse _ _ _) nofun
  · split
    · exact tooLarge _ _
    · split
      · exact tooLarge _ _
      · next body drained =>
          obtain ⟨rfl, size⟩ := drain_eq_some_iff.mp drained
          split
          · next shallow => exact .called rfl size shallow
          · next deep =>
              exact .refused 422 (isRefusal_refuse _ _ _) fun _ => Bool.eq_false_of_not_eq_true deep

/-! ## The path -/

theorem pathKey_of_outside {scope : Scope}
    (outside : scope.rootPath.toList = [] ∨ ¬scope.rootPath.toList <+: scope.path.toList) :
    pathKey scope = withoutSlash scope.path.toList := by
  rw [pathKey, if_neg]
  rintro ⟨mounted, isPrefix⟩
  rcases outside with empty | apart
  · exact mounted empty
  · exact apart (List.isPrefixOf_iff_prefix.mp isPrefix)

theorem pathKey_of_inside {scope : Scope} {rest : List Char} (mounted : scope.rootPath.toList ≠ [])
    (path : scope.path.toList = scope.rootPath.toList ++ rest) :
    pathKey scope = withoutSlash (if rest = [] then ['/'] else rest) := by
  rw [pathKey, if_pos, path, List.drop_left]
  rw [path]
  exact ⟨mounted, List.isPrefixOf_iff_prefix.mpr (List.prefix_append _ _)⟩

/-- Nothing is bounded at the root of the application. -/
theorem limitAt_root {method : String} {path : List Char} (root : path = [] ∨ path = ['/']) :
    requestBodyLimit.limitAt method (withoutSlash path) =
      requestBodyLimit.limitAt method ['/'] := by
  rcases root with rfl | rfl
  · have unnamed : ∀ path : List Char, path = [] ∨ path = ['/'] →
        requestBodyLimit.limits.lookup (method, path) = none := by
      intro path root
      rw [List.lookup_eq_none_iff]
      intro entry member
      rw [bne_iff_ne]
      rintro same
      have named : entry.1.2 = [] ∨ entry.1.2 = ['/'] := by rwa [← same]
      revert named
      simp only [requestBodyLimit, List.mem_cons, List.not_mem_nil, or_false] at member
      rcases member with rfl | rfl <;> decide
    have first := unnamed [] (Or.inl rfl)
    have second := unnamed ['/'] (Or.inr rfl)
    have same : withoutSlash [] = [] := rfl
    rw [same, RequestBodyLimit.limitAt, RequestBodyLimit.limitAt, first, second]
  · rfl

/-- At a boundary the bound is the one declared for the route. -/
theorem limitAt_pathKey (routing : Routing) {scope : Scope}
    (boundary : AtBoundary scope.rootPath.toList scope.path.toList) :
    requestBodyLimit.limitAt scope.method (pathKey scope) =
      routing.declared requestBodyLimit scope := by
  rw [Routing.declared]
  by_cases unmounted : scope.rootPath.toList = []
  · rw [pathKey_of_outside (Or.inl unmounted), routing.outside (Or.inl unmounted)]
  · rcases boundary with empty | apart | same | ⟨rest, path⟩
    · exact absurd empty unmounted
    · rw [pathKey_of_outside (Or.inr apart), routing.outside (Or.inr apart)]
    · have whole : scope.path.toList = scope.rootPath.toList ++ [] := by
        rw [List.append_nil, same]
      rw [pathKey_of_inside unmounted whole, if_pos rfl, same, limitAt_root (routing.mount unmounted)]
      rfl
    · rw [pathKey_of_inside unmounted path, if_neg (List.cons_ne_nil _ _), path,
        routing.inside rest unmounted]

/-- A method with a body is bounded on every path. -/
theorem exists_limit {method : String} (bodied : method ∈ bodiedMethods) (path : List Char) :
    ∃ limit, requestBodyLimit.limitAt method path = some limit := by
  rw [RequestBodyLimit.limitAt]
  split
  · exact ⟨_, rfl⟩
  · rw [if_pos bodied]
    exact ⟨_, rfl⟩

/-- Routing that removes the mount where a slash follows it. -/
def slashRouting : Routing where
  routePath root path :=
    if root ≠ [] ∧ root <+: path ∧ ((path.drop root.length).head? = some '/' ∨ path = root) then
      path.drop root.length
    else path
  outside := by
    rintro root path (rfl | apart)
    · rfl
    · rw [if_neg fun both => apart both.2.1]
  inside := by
    intro root rest mounted
    rw [if_pos]
    · exact List.drop_left
    · exact ⟨mounted, List.prefix_append _ _, Or.inl (by rw [List.drop_left]; rfl)⟩
  mount := by
    intro root mounted
    left
    rw [if_pos ⟨mounted, List.prefix_rfl, Or.inr rfl⟩]
    exact List.drop_length

/-- A request with a body of the declared length. -/
def posted (path : String) (length : String) : Scope where
  method := "POST"
  path := path
  headers := [(contentLength, length.toList.map Char.toNat)]

/-- A text in UTF-16, its low bytes first. -/
def wide (text : String) : List Nat :=
  text.toList.flatMap fun char => [char.toNat % 256, char.toNat / 256]

/-- Brackets behind a string of one escaped quote. -/
def hidden : List Nat :=
  wide "[\"\\\"\",[[[[[[[[[[[[]]]]]]]]]]]]]"

theorem exists_hidden : ∃ document, AcceptsBytes hidden document ∧ document.valueLevels = 13 := by
  have decoded : ((characters hidden).map fun read => read.map Prod.fst) =
      some ("[\"\\\"\",[[[[[[[[[[[[]]]]]]]]]]]]]".toList.map Char.toNat) := by decide +kernel
  obtain ⟨read, characters, text⟩ := Option.map_eq_some_iff.mp decoded
  have found : (readValue 200 (skipBlanks (read.map Prod.fst))).map
      (fun value => (value.1.valueLevels, value.2)) = some (13, []) := by
    rw [text]
    decide +kernel
  obtain ⟨⟨document, rest⟩, reads, same⟩ := Option.map_eq_some_iff.mp found
  rw [Prod.mk.injEq] at same
  obtain ⟨levels, rfl⟩ := same
  exact ⟨document, ⟨read, characters, 200, [], reads, rfl⟩, levels⟩

/-- A request to an application that is mounted at its root, under a mount that ends in a slash. -/
def atSlash (path : String) : Scope :=
  { posted path "2" with rootPath := "/" }

end AgentRank.Limits
