import Keyspace.Json.Basic

set_option autoImplicit false

namespace Keyspace.Json

def escapedChar (c : Char) : List Char :=
  if c = '"' then ['\\', '"']
  else if c = '\\' then ['\\', '\\']
  else if c = '\n' then ['\\', 'n']
  else if c = '\r' then ['\\', 'r']
  else if c = '\t' then ['\\', 't']
  else if c = '\x08' then ['\\', 'b']
  else if c = '\x0c' then ['\\', 'f']
  else if c.toNat < 0x20 then
    ['\\', 'u', '0', '0', if c.toNat < 0x10 then '0' else '1', Nat.digitChar (c.toNat % 16)]
  else [c]

def stringText (s : String) : List Char := '"' :: s.toList.flatMap escapedChar ++ ['"']

mutual

def chars : Json → List Char
  | null => "null".toList
  | bool true => "true".toList
  | bool false => "false".toList
  | num n => n.text.toList
  | str s => stringText s
  | arr [] => ['[', ']']
  | arr (x :: xs) => '[' :: (chars x ++ (itemChars xs ++ [']']))
  | obj [] => ['\x7b', '\x7d']
  | obj ((k, x) :: ms) =>
    '\x7b' :: (stringText k ++ ':' :: (chars x ++ (memberChars ms ++ ['\x7d'])))

def itemChars : List Json → List Char
  | [] => []
  | x :: xs => ',' :: (chars x ++ itemChars xs)

def memberChars : List (String × Json) → List Char
  | [] => []
  | (k, x) :: ms => ',' :: (stringText k ++ ':' :: (chars x ++ memberChars ms))

end

def compact (v : Json) : String := String.ofList v.chars

def byteSize (v : Json) : Nat := v.compact.utf8ByteSize

end Keyspace.Json
