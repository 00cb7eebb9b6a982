import Templating.Data.Display

/-!
# Checking values against a schema

A schema is a list of rules, checked in the order it lists them; each rule that fails gives one
issue at the path of the value it looked at. The rules are:

* `kind`: the value is of one of the listed kinds, where an integer is an integer or a float
  without a fraction and a truth value is neither an integer nor a number;
* `oneOf`: the value is one of the listed texts;
* `minLength`: a text has at least that many characters;
* `minimum`: a number is at least that large;
* `fields`: each listed key that the object has satisfies the rules listed for it;
* `additional false`: the object has no key that `fields` does not list.

`Schema.issues` lists the issues in the order of checking; `pathLe` orders paths, a path before
its extensions.

The messages quote values as literals: `'x' is not of type 'integer'`,
`0 is less than the minimum of 1`; keys an object may not have are listed in the order of their
texts. Values are looked up through the heap.
-/

namespace Templating.Config

/-- The kinds of value a schema can ask for. -/
inductive Kind where
  | object
  | array
  | string
  | integer
  | number
  | boolean
  | null
  deriving DecidableEq, Repr

namespace Kind

/-- The name of a kind in a schema. -/
def name : Kind → String
  | object => "object"
  | array => "array"
  | string => "string"
  | integer => "integer"
  | number => "number"
  | boolean => "boolean"
  | null => "null"

/-- Whether a value, looked up through the heap, is of a kind. -/
def admits (h : Heap) (k : Kind) (v : Value) : Bool :=
  match k, v.deref h with
  | object, .obj _ => true
  | array, .list _ => true
  | string, .str _ => true
  | integer, .int _ => true
  | integer, .float x => x.floor == x && !x.isInf
  | number, .int _ => true
  | number, .float _ => true
  | boolean, .bool _ => true
  | null, .null => true
  | _, _ => false

end Kind

/-- One rule of a schema. -/
inductive Rule where
  | kind (kinds : List Kind)
  | oneOf (options : List String)
  | minLength (least : Nat)
  | minimum (least : Int)
  | fields (rules : List (String × List Rule))
  | additional (allowed : Bool)
  deriving Repr

/-- A failed rule: where the value is and what is wrong with it. -/
structure Issue where
  path : List String
  message : String
  deriving DecidableEq, Repr

/-- Where an issue is, as a failure names it: the keys of its path joined by dots, `<root>` for
the value itself. -/
def Issue.location (i : Issue) : String := if i.path.isEmpty then "<root>" else ".".intercalate i.path

/-- The issue seen from one object up: its path starts with the key. -/
def Issue.under (key : String) (i : Issue) : Issue := ⟨key :: i.path, i.message⟩

/-- The message for a value of none of the kinds. -/
def kindMessage (h : Heap) (v : Value) (kinds : List Kind) : Except Failure String := do
  pure ((← v.literal h) ++ " is not of type " ++ commaList (kinds.map fun k => quoteText k.name))

/-- Inserts a key into a list ordered by the texts of the keys, after those of equal text. -/
def insertByText (h : Heap) (k : Value) (t : String) : List (Value × String) → List (Value × String)
  | [] => [(k, t)]
  | (k', t') :: rest => if t < t' then (k, t) :: (k', t') :: rest else (k', t') :: insertByText h k t rest

/-- The message for keys that an object may not have: they are listed in the order of their
texts. -/
def extraMessage (h : Heap) (extras : List Value) : Except Failure String := do
  let keyed ← extras.mapM fun k => do pure (k, ← k.text h)
  let sorted := keyed.foldl (fun acc (k, t) => insertByText h k t acc) []
  let shown ← sorted.mapM fun (k, _) => k.literal h
  let verb := if extras.length == 1 then "was" else "were"
  pure ("Additional properties are not allowed (" ++ commaList shown ++ " " ++ verb ++ " unexpected)")

/-- Whether a number is below a least value. -/
def below (least : Int) : Value → Bool
  | .int n => n < least
  | .float x => Num.floatLtInt x least
  | _ => false

/-- The keys that the `fields` rules of a list of rules name. -/
def Rule.named : List Rule → List String
  | [] => []
  | .fields rules :: rest => rules.map (·.1) ++ Rule.named rest
  | _ :: rest => Rule.named rest

mutual

/-- The issues of a value under one rule; `named` are the keys that the rule's own list names. -/
def Rule.issues (h : Heap) (named : List String) : Rule → Value → Except Failure (List Issue)
  | .kind kinds, v =>
      if kinds.any (·.admits h v) then .ok [] else do pure [⟨[], ← kindMessage h v kinds⟩]
  | .oneOf options, v =>
      if options.any ((v.deref h).isStr ·) then .ok []
      else do
        let shown ← v.literal h
        let listed ← (Value.list (options.map .str)).literal h
        pure [⟨[], shown ++ " is not one of " ++ listed⟩]
  | .minLength least, v =>
      match v.deref h with
      | .str s =>
          if s.length < least then
            .ok [⟨[], quoteText s ++ (if least == 1 then " should be non-empty" else " is too short")⟩]
          else .ok []
      | _ => .ok []
  | .minimum least, v =>
      let w := v.deref h
      if below least w then do
        pure [⟨[], (← w.literal h) ++ " is less than the minimum of " ++ toString least⟩]
      else .ok []
  | .fields rules, v =>
      match v.deref h with
      | .obj kvs => Rule.fieldIssues h rules kvs
      | _ => .ok []
  | .additional false, v =>
      match v.deref h with
      | .obj kvs =>
          let extras := (kvs.map (·.1)).filter fun k => !named.any (k.sameKey <| .str ·)
          if extras.isEmpty then .ok []
          else do pure [⟨[], ← extraMessage h extras⟩]
      | _ => .ok []
  | .additional _, _ => .ok []

/-- The issues of a value under each rule of a list, in order. -/
def Rule.eachIssues (h : Heap) (named : List String) : List Rule → Value → Except Failure (List Issue)
  | [], _ => .ok []
  | r :: rs, v => do pure ((← r.issues h named v) ++ (← Rule.eachIssues h named rs v))

/-- The issues of the listed keys of an object, in the order of the list. -/
def Rule.fieldIssues (h : Heap) : List (String × List Rule) → Entries → Except Failure (List Issue)
  | [], _ => .ok []
  | (key, rules) :: rest, kvs => do
      let here ← match Entries.field? kvs key with
        | some v => do pure ((← Rule.eachIssues h (Rule.named rules) rules v).map (Issue.under key))
        | none => pure []
      pure (here ++ (← Rule.fieldIssues h rest kvs))

end

/-- A schema: the rules a value must satisfy, in the order they are checked. -/
structure Schema where
  rules : List Rule
  deriving Repr

/-- Lexicographic order of paths, a path before its extensions. -/
def pathLe : List String → List String → Bool
  | [], _ => true
  | _ :: _, [] => false
  | a :: as, b :: bs => if a == b then pathLe as bs else decide (a < b)

namespace Schema

/-- The issues of a value, in the order of checking. -/
def issues (s : Schema) (h : Heap) (v : Value) : Except Failure (List Issue) :=
  Rule.eachIssues h (Rule.named s.rules) s.rules v

end Schema

end Templating.Config
