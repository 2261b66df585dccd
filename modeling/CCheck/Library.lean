import CCheck.CType.Basic

/-! # The functions of the standard library

Functions that a program may call without declaring them. Each has a number by which a
call to it is recorded. A stream is a `void *`, `size_t` is `unsigned long`, and the
time types are `long`. -/

set_option autoImplicit false

namespace CCheck

inductive Header where
 | stdio | stdlib | string | ctype | time | math
deriving DecidableEq, Repr

def Header.fileName : Header → String
 | stdio => "stdio.h"
 | stdlib => "stdlib.h"
 | string => "string.h"
 | ctype => "ctype.h"
 | time => "time.h"
 | math => "math.h"

structure LibraryFunction where
 header : Header
 id : Nat
 name : String
 ret : CType
 params : List (String × CType)
 variadic : Bool
deriving DecidableEq

namespace LibraryFunction

def type (f:LibraryFunction) : CType := .function f.ret (f.params.map (·.2)) f.variadic

def text : CType := .pointer (CType.char.qualify .const)

def source : CType := .pointer (CType.void.qualify .const)

def stdio : List LibraryFunction :=
 let stream : String × CType := ("stream",.voidPointer)
 let format : String × CType := ("format",text)
 [⟨.stdio,0x0030,"printf",.int,[format],true⟩,
  ⟨.stdio,0x0031,"fprintf",.int,[stream,format],true⟩,
  ⟨.stdio,0x0032,"sprintf",.int,[("str",.charPointer),format],true⟩,
  ⟨.stdio,0x0033,"scanf",.int,[format],true⟩,
  ⟨.stdio,0x0080,"puts",.int,[("s",text)],false⟩,
  ⟨.stdio,0x0081,"putchar",.int,[("c",.int)],false⟩,
  ⟨.stdio,0x0082,"getchar",.int,[],false⟩,
  ⟨.stdio,0x0044,"fseek",.int,[stream,("offset",.long),("whence",.int)],false⟩,
  ⟨.stdio,0x0045,"ftell",.long,[stream],false⟩,
  ⟨.stdio,0x0046,"feof",.int,[stream],false⟩,
  ⟨.stdio,0x0047,"ferror",.int,[stream],false⟩,
  ⟨.stdio,0x00D0,"fflush",.int,[stream],false⟩]

def stdlib : List LibraryFunction :=
 [⟨.stdlib,0x0001,"malloc",.voidPointer,[("size",.ulong)],false⟩,
  ⟨.stdlib,0x0002,"free",.void,[("ptr",.voidPointer)],false⟩,
  ⟨.stdlib,0x0060,"atoi",.int,[("s",text)],false⟩,
  ⟨.stdlib,0x0061,"atol",.long,[("s",text)],false⟩,
  ⟨.stdlib,0x00C2,"rand",.int,[],false⟩,
  ⟨.stdlib,0x00C3,"srand",.void,[("seed",.uint)],false⟩,
  ⟨.stdlib,0x0070,"exit",.void,[("status",.int)],false⟩]

def strings : List LibraryFunction :=
 let n : String × CType := ("n",.ulong)
 let dest : String × CType := ("dest",.charPointer)
 let src : String × CType := ("src",text)
 [⟨.string,0x0010,"strlen",.ulong,[("s",text)],false⟩,
  ⟨.string,0x0011,"strcpy",.charPointer,[dest,src],false⟩,
  ⟨.string,0x0012,"strncpy",.charPointer,[dest,src,n],false⟩,
  ⟨.string,0x0013,"strcmp",.int,[("a",text),("b",text)],false⟩,
  ⟨.string,0x0014,"strncmp",.int,[("a",text),("b",text),n],false⟩,
  ⟨.string,0x0015,"strcat",.charPointer,[dest,src],false⟩,
  ⟨.string,0x0016,"strncat",.charPointer,[dest,src,n],false⟩,
  ⟨.string,0x0017,"strchr",.charPointer,[("s",text),("c",.int)],false⟩,
  ⟨.string,0x0018,"strstr",.charPointer,[("haystack",text),("needle",text)],false⟩,
  ⟨.string,0x0090,"strdup",.charPointer,[("s",text)],false⟩,
  ⟨.string,0x0091,"strtok",.charPointer,[("s",.charPointer),("delim",text)],false⟩,
  ⟨.string,0x0020,"memcpy",.voidPointer,[("dest",.voidPointer),("src",source),n],false⟩,
  ⟨.string,0x0022,"memset",.voidPointer,[("s",.voidPointer),("c",.int),n],false⟩,
  ⟨.string,0x0023,"memcmp",.int,[("a",source),("b",source),n],false⟩]

def characters : List LibraryFunction :=
 [(0x00A0,"isalpha"),(0x00A1,"isdigit"),(0x00A3,"isspace"),(0x00A6,"toupper"),
  (0x00A7,"tolower")].map fun (id,name) => ⟨.ctype,id,name,.int,[("c",.int)],false⟩

def times : List LibraryFunction :=
 [⟨.time,0x00B0,"time",.long,[("t",.pointer .long)],false⟩,
  ⟨.time,0x00B1,"clock",.long,[],false⟩]

def mathematics : List LibraryFunction :=
 [(0x0052,"sqrt"),(0x0054,"sin"),(0x0055,"cos"),(0x0056,"tan"),(0x00F3,"log"),
  (0x00F4,"log10"),(0x00F5,"exp"),(0x00F7,"floor"),(0x00F8,"ceil"),
  (0x00F9,"fabs")].map (fun (id,name) =>
   ⟨.math,id,name,.double,[("x",.double)],false⟩)
 ++ [⟨.math,0x0053,"pow",.double,[("x",.double),("y",.double)],false⟩]

def all : List LibraryFunction :=
 stdio ++ stdlib ++ strings ++ characters ++ times ++ mathematics

def find? (name:String) : Option LibraryFunction := all.find? (·.name == name)

theorem all_ids_nodup : (all.map (·.id)).Nodup := by decide

theorem all_names_nodup : (all.map (·.name)).Nodup := by decide

end LibraryFunction

end CCheck
