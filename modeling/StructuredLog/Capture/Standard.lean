/-!
The types of standard values: their full names, by short ones. Generic types are given the full
names of their arguments.
-/

namespace StructuredLog.Capture.Standard

def numbers : List String :=
  ["i8", "i16", "i32", "i64", "i128", "isize", "u8", "u16", "u32", "u64", "u128", "usize", "f32",
    "f64"]

def texts : List (String × String) :=
  [("string", "alloc::string::String"),
   ("str", "&str"),
   ("cow", "alloc::borrow::Cow<\x27_, str>"),
   ("boxstr", "alloc::boxed::Box<str>"),
   ("arcstr", "alloc::sync::Arc<str>")]

/-- The type of owned texts. -/
def text : String := "alloc::string::String"

def times : List (String × String) :=
  [("naive", "chrono::naive::datetime::NaiveDateTime"),
   ("date", "chrono::naive::date::NaiveDate"),
   ("time", "chrono::naive::time::NaiveTime"),
   ("duration", "core::time::Duration"),
   ("datetime_utc", "chrono::datetime::DateTime<chrono::offset::utc::Utc>"),
   ("datetime", "chrono::datetime::DateTime<chrono::offset::fixed::FixedOffset>"),
   ("datetime_local", "chrono::datetime::DateTime<chrono::offset::local::Local>")]

def places : List (String × String) :=
  [("ip", "core::net::ip_addr::IpAddr"),
   ("ipv4", "core::net::ip_addr::Ipv4Addr"),
   ("ipv6", "core::net::ip_addr::Ipv6Addr"),
   ("socket", "core::net::socket_addr::SocketAddr"),
   ("path", "std::path::PathBuf")]

/-- Types whose values are scalars or texts. -/
def scalars : List String :=
  ["bool", "char"] ++ numbers ++ (texts ++ times ++ places).map (·.2)

/-- Sequences of bytes that lie together. -/
def bytes : List (String × String) :=
  [("vec_u8", "alloc::vec::Vec<u8>"),
   ("boxslice_u8", "alloc::boxed::Box<[u8]>"),
   ("slice_u8", "&[u8]"),
   ("bytes", "bytes::bytes::Bytes"),
   ("bytesmut", "bytes::bytes_mut::BytesMut")]

/-- Wrappers stand for what they hold. -/
def wrappers (inner : String) : List (String × String) :=
  [("some", "core::option::Option<" ++ inner ++ ">"),
   ("box", "alloc::boxed::Box<" ++ inner ++ ">"),
   ("arc", "alloc::sync::Arc<" ++ inner ++ ">"),
   ("rc", "alloc::rc::Rc<" ++ inner ++ ">")]

def array (item : String) (count : Nat) : String := "[" ++ item ++ "; " ++ toString count ++ "]"

def sequences (item : String) : List (String × String) :=
  [("vec", "alloc::vec::Vec<" ++ item ++ ">"),
   ("deque", "alloc::collections::vec_deque::VecDeque<" ++ item ++ ">"),
   ("list", "alloc::collections::linked_list::LinkedList<" ++ item ++ ">"),
   ("boxslice", "alloc::boxed::Box<[" ++ item ++ "]>"),
   ("slice", "&[" ++ item ++ "]"),
   ("btreeset", "alloc::collections::btree::set::BTreeSet<" ++ item ++ ">"),
   ("hashset", "std::collections::hash::set::HashSet<" ++ item ++ ">")]

def maps (key value : String) : List (String × String) :=
  let arguments := "<" ++ key ++ ", " ++ value ++ ">"
  [("hashmap", "std::collections::hash::map::HashMap" ++ arguments),
   ("btreemap", "alloc::collections::btree::map::BTreeMap" ++ arguments),
   ("indexmap", "indexmap::map::IndexMap" ++ arguments)]

/-- A tuple of one item has a comma after it. -/
def tuple : List String → String
  | [item] => "(" ++ item ++ ",)"
  | items => "(" ++ ", ".intercalate items ++ ")"

def functions : List (String × String) :=
  [("fn0", "fn() -> u8"),
   ("fn1", "fn(i32) -> i32"),
   ("fn2", "fn(alloc::string::String, bool)"),
   ("fn3", "fn(u8, u8, u8) -> alloc::vec::Vec<i32>")]

end StructuredLog.Capture.Standard
