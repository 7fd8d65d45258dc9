import KeyWalk.Score
import KeyWalk.Range.Bounds

/-!
Commands: a kind and its argument tokens.

* `CommandKind.name` is the name on the wire, `CommandKind.ofName?` finds a kind by its name in
  any ASCII case,
* `Command.display` writes a command on one line.

Tokens are raw bytes; framing them for the wire is the work of a transport.
-/

namespace KeyWalk

/-- The commands on hashes and sorted sets. -/
inductive CommandKind where
  | hdel
  | hexists
  | hget
  | hincrby
  | hincrbyfloat
  | hgetall
  | hkeys
  | hlen
  | hmget
  | hmset
  | hset
  | hsetnx
  | hvals
  | hscan
  | zadd
  | zcard
  | zcount
  | zincrby
  | zinterstore
  | zlexcount
  | zrange
  | zrangebylex
  | zrangebyscore
  | zrank
  | zrem
  | zremrangebylex
  | zremrangebyrank
  | zremrangebyscore
  | zrevrange
  | zrevrangebylex
  | zrevrangebyscore
  | zrevrank
  | zscore
  | zunionstore
  | zscan
  deriving DecidableEq, Repr

namespace CommandKind

/-- Every kind of command. -/
def all : List CommandKind :=
  [hdel, hexists, hget, hincrby, hincrbyfloat, hgetall, hkeys, hlen, hmget, hmset, hset, hsetnx,
    hvals, hscan, zadd, zcard, zcount, zincrby, zinterstore, zlexcount, zrange, zrangebylex,
    zrangebyscore, zrank, zrem, zremrangebylex, zremrangebyrank, zremrangebyscore, zrevrange,
    zrevrangebylex, zrevrangebyscore, zrevrank, zscore, zunionstore, zscan]

/-- The name on the wire. -/
def name : CommandKind → String
  | hdel => "HDEL"
  | hexists => "HEXISTS"
  | hget => "HGET"
  | hincrby => "HINCRBY"
  | hincrbyfloat => "HINCRBYFLOAT"
  | hgetall => "HGETALL"
  | hkeys => "HKEYS"
  | hlen => "HLEN"
  | hmget => "HMGET"
  | hmset => "HMSET"
  | hset => "HSET"
  | hsetnx => "HSETNX"
  | hvals => "HVALS"
  | hscan => "HSCAN"
  | zadd => "ZADD"
  | zcard => "ZCARD"
  | zcount => "ZCOUNT"
  | zincrby => "ZINCRBY"
  | zinterstore => "ZINTERSTORE"
  | zlexcount => "ZLEXCOUNT"
  | zrange => "ZRANGE"
  | zrangebylex => "ZRANGEBYLEX"
  | zrangebyscore => "ZRANGEBYSCORE"
  | zrank => "ZRANK"
  | zrem => "ZREM"
  | zremrangebylex => "ZREMRANGEBYLEX"
  | zremrangebyrank => "ZREMRANGEBYRANK"
  | zremrangebyscore => "ZREMRANGEBYSCORE"
  | zrevrange => "ZREVRANGE"
  | zrevrangebylex => "ZREVRANGEBYLEX"
  | zrevrangebyscore => "ZREVRANGEBYSCORE"
  | zrevrank => "ZREVRANK"
  | zscore => "ZSCORE"
  | zunionstore => "ZUNIONSTORE"
  | zscan => "ZSCAN"

/-- The kind with a name, ASCII case aside. -/
def ofName? (text : String) : Option CommandKind :=
  all.find? fun k => Text.upper text.toList == k.name.toList

/-- The name with only its first letter a capital, for diagnostic texts. -/
def title (k : CommandKind) : String :=
  match k.name.toList with
  | [] => ""
  | c :: cs => String.ofList (c :: Text.lower cs)

end CommandKind

/-- A command ready for a transport. -/
structure Command where
  kind : CommandKind
  args : List Bytes
  deriving DecidableEq, Repr

namespace Command

/-- The name on the wire. -/
def name (c : Command) : String := c.kind.name

/-- The command on one line, ill-formed bytes replaced. -/
def display (c : Command) : String :=
  c.args.foldl (fun text arg => text ++ " " ++ Utf8.lossyString arg) c.name

/-- The diagnostic text of a command: its kind and its tokens as quoted bytes. -/
def inspect (c : Command) : String :=
  "Command \x7b kind: " ++ c.kind.title ++ ", args: CommandArgs \x7b args: [" ++
    String.intercalate ", " (c.args.map Quoted.bytes) ++ "] \x7d \x7d"

end Command

end KeyWalk
