import NntpBench.Text

namespace NntpBench.Server

def crlfText (lines : List String) : Bytes := lines.flatMap fun line => ascii line ++ CRLF

def LIST_RESPONSE : Bytes :=
  crlfText
    ["215 list of newsgroups follows", "comp.lang.rust 0000000001 0000000001 y",
     "alt.test 0000000003 0000000001 y", "empty.test 0000000000 0000000000 y", "."]

def LIST_ACTIVE_COMP_ALT_RESPONSE : Bytes :=
  crlfText
    ["215 list of newsgroups follows", "comp.lang.rust 0000000001 0000000001 y",
     "alt.test 0000000003 0000000001 y", "."]

def LIST_ACTIVE_COMP_RESPONSE : Bytes :=
  crlfText ["215 list of newsgroups follows", "comp.lang.rust 0000000001 0000000001 y", "."]

def LIST_ACTIVE_ALT_RESPONSE : Bytes :=
  crlfText ["215 list of newsgroups follows", "alt.test 0000000003 0000000001 y", "."]

def LIST_ACTIVE_EMPTY_GROUP_RESPONSE : Bytes :=
  crlfText ["215 list of newsgroups follows", "empty.test 0000000000 0000000000 y", "."]

def LIST_ACTIVE_COMP_EMPTY_GROUP_RESPONSE : Bytes :=
  crlfText
    ["215 list of newsgroups follows", "comp.lang.rust 0000000001 0000000001 y",
     "empty.test 0000000000 0000000000 y", "."]

def LIST_ACTIVE_ALT_EMPTY_GROUP_RESPONSE : Bytes :=
  crlfText
    ["215 list of newsgroups follows", "alt.test 0000000003 0000000001 y",
     "empty.test 0000000000 0000000000 y", "."]

def LIST_EMPTY_RESPONSE : Bytes := crlfText ["215 list of newsgroups follows", "."]

structure ListInfoResponses where
  full : Bytes
  compAlt : Bytes
  comp : Bytes
  alt : Bytes
  empty : Bytes
  compEmpty : Bytes
  altEmpty : Bytes

def LIST_ACTIVE_TIMES_RESPONSES : ListInfoResponses where
  full :=
    crlfText
      ["215 information follows", "comp.lang.rust 1715904000 admin@nntpbench.local",
       "alt.test 1715907600 admin@nntpbench.local", "empty.test 1715911200 admin@nntpbench.local",
       "."]
  compAlt :=
    crlfText
      ["215 information follows", "comp.lang.rust 1715904000 admin@nntpbench.local",
       "alt.test 1715907600 admin@nntpbench.local", "."]
  comp :=
    crlfText ["215 information follows", "comp.lang.rust 1715904000 admin@nntpbench.local", "."]
  alt := crlfText ["215 information follows", "alt.test 1715907600 admin@nntpbench.local", "."]
  empty := crlfText ["215 information follows", "empty.test 1715911200 admin@nntpbench.local", "."]
  compEmpty :=
    crlfText
      ["215 information follows", "comp.lang.rust 1715904000 admin@nntpbench.local",
       "empty.test 1715911200 admin@nntpbench.local", "."]
  altEmpty :=
    crlfText
      ["215 information follows", "alt.test 1715907600 admin@nntpbench.local",
       "empty.test 1715911200 admin@nntpbench.local", "."]

def LIST_NEWSGROUPS_RESPONSES : ListInfoResponses where
  full :=
    crlfText
      ["215 information follows", "comp.lang.rust The Rust programming language",
       "alt.test Synthetic benchmark group", "empty.test Empty synthetic benchmark group", "."]
  compAlt :=
    crlfText
      ["215 information follows", "comp.lang.rust The Rust programming language",
       "alt.test Synthetic benchmark group", "."]
  comp := crlfText ["215 information follows", "comp.lang.rust The Rust programming language", "."]
  alt := crlfText ["215 information follows", "alt.test Synthetic benchmark group", "."]
  empty := crlfText ["215 information follows", "empty.test Empty synthetic benchmark group", "."]
  compEmpty :=
    crlfText
      ["215 information follows", "comp.lang.rust The Rust programming language",
       "empty.test Empty synthetic benchmark group", "."]
  altEmpty :=
    crlfText
      ["215 information follows", "alt.test Synthetic benchmark group",
       "empty.test Empty synthetic benchmark group", "."]

def LIST_INFO_EMPTY_RESPONSE : Bytes := crlfText ["215 information follows", "."]

def LIST_OVERVIEW_FMT_RESPONSE : Bytes :=
  crlfText
    ["215 Order of fields in overview database", "Subject:", "From:", "Date:", "Message-ID:",
     "References:", ":bytes", ":lines", "."]

def LIST_HEADERS_RESPONSE : Bytes :=
  crlfText
    ["215 headers supported", ":bytes", ":lines", "Subject", "From", "Date", "Message-ID",
     "References", "."]

def LIST_DISTRIB_PATS_RESPONSE : Bytes :=
  crlfText ["215 distribution patterns", "1:*:world", "2:*.local:local", "."]

def GROUP_RESPONSE : Bytes := crlfText ["211 3 1 3 alt.test"]

def GROUP_COMP_RESPONSE : Bytes := crlfText ["211 1 1 1 comp.lang.rust"]

def GROUP_EMPTY_RESPONSE : Bytes := crlfText ["211 0 0 0 empty.test"]

def LISTGROUP_RESPONSE : Bytes := crlfText ["211 3 1 3 alt.test", "1", "2", "3", "."]

def LISTGROUP_COMP_RESPONSE : Bytes := crlfText ["211 1 1 1 comp.lang.rust", "1", "."]

def LISTGROUP_COMP_EMPTY_RESPONSE : Bytes := crlfText ["211 1 1 1 comp.lang.rust", "."]

def LISTGROUP_EMPTY_GROUP_RESPONSE : Bytes := crlfText ["211 0 0 0 empty.test", "."]

def LISTGROUP_EMPTY_RESPONSE : Bytes := crlfText ["211 3 1 3 alt.test", "."]

def LISTGROUP_2_3_RESPONSE : Bytes := crlfText ["211 3 1 3 alt.test", "2", "3", "."]

def LAST_RESPONSE : Bytes :=
  crlfText ["223 1 <prev@alt.test> article retrieved - request text separately"]

def NEXT_RESPONSE : Bytes :=
  crlfText ["223 2 <next@alt.test> article retrieved - request text separately"]

def NAVIGATION_ARTICLE_2_RESPONSE : Bytes :=
  crlfText ["223 2 <article.2@alt.test> article retrieved - request text separately"]

def NAVIGATION_ARTICLE_3_RESPONSE : Bytes :=
  crlfText ["223 3 <article.3@alt.test> article retrieved - request text separately"]

def NEWGROUPS_RESPONSE : Bytes :=
  crlfText
    ["231 list of new newsgroups follows", "comp.lang.rust 0000000001 0000000001 y",
     "alt.test 0000000003 0000000001 y", "empty.test 0000000000 0000000000 y", "."]

def NEWGROUPS_EMPTY_RESPONSE : Bytes := crlfText ["231 list of new newsgroups follows", "."]

def NEWNEWS_RESPONSE : Bytes :=
  crlfText ["230 list of new articles follows", "<one@alt.test>", "<two@alt.test>", "."]

def NEWNEWS_EMPTY_RESPONSE : Bytes := crlfText ["230 list of new articles follows", "."]

def overviewRow1 (number : String) : String :=
  number ++ "\tSubject one\tone@example.com\tFri, 16 May 2026 12:00:00 +0000" ++
    "\t<one@example.com>\t\t123\t4"

def overviewRow2 : String :=
  "2\tSubject two\ttwo@example.com\tFri, 16 May 2026 12:00:01 +0000" ++
    "\t<two@example.com>\t<ref@example.com>\t456\t8"

def overviewRow3 : String :=
  "3\tSubject three\tthree@example.com\tFri, 16 May 2026 12:00:02 +0000" ++
    "\t<three@example.com>\t<two@example.com>\t789\t12"

def overviewText (rows : List String) : Bytes :=
  crlfText ("224 Overview information follows" :: rows ++ ["."])

def OVER_RESPONSE : Bytes := overviewText [overviewRow1 "1"]

def OVER_MESSAGE_ID_RESPONSE : Bytes := overviewText [overviewRow1 "0"]

def OVER_2_RESPONSE : Bytes := overviewText [overviewRow2]

def OVER_3_RESPONSE : Bytes := overviewText [overviewRow3]

def OVER_2_PLUS_RESPONSE : Bytes := overviewText [overviewRow2, overviewRow3]

def OVER_RANGE_RESPONSE : Bytes := overviewText [overviewRow1 "1", overviewRow2]

def OVER_ALL_RESPONSE : Bytes := overviewText [overviewRow1 "1", overviewRow2, overviewRow3]

def XOVER_RESPONSE : Bytes := OVER_RANGE_RESPONSE

/-- The replies to HDR or XHDR for one header: `HDR_FROM_RESPONSE` is `all`, and the others are the
replies whose names have `MESSAGE_ID`, `1`, `2_PLUS`, `2` or `3` in them. -/
structure HeaderResponses where
  all : Bytes
  messageId : Bytes
  first : Bytes
  secondAndThird : Bytes
  second : Bytes
  third : Bytes

def HDR_SUBJECT_RESPONSES : HeaderResponses where
  all := crlfText ["225 headers follow", "1 example one", "2 example two", "."]
  messageId := crlfText ["225 headers follow", "0 example one", "."]
  first := crlfText ["225 headers follow", "1 example one", "."]
  secondAndThird := crlfText ["225 headers follow", "2 example two", "3 example three", "."]
  second := crlfText ["225 headers follow", "2 example two", "."]
  third := crlfText ["225 headers follow", "3 example three", "."]

def HDR_FROM_RESPONSES : HeaderResponses where
  all := crlfText ["225 headers follow", "1 one@example.com", "2 two@example.com", "."]
  messageId := crlfText ["225 headers follow", "0 one@example.com", "."]
  first := crlfText ["225 headers follow", "1 one@example.com", "."]
  secondAndThird := crlfText ["225 headers follow", "2 two@example.com", "3 three@example.com", "."]
  second := crlfText ["225 headers follow", "2 two@example.com", "."]
  third := crlfText ["225 headers follow", "3 three@example.com", "."]

def HDR_DATE_RESPONSES : HeaderResponses where
  all :=
    crlfText
      ["225 headers follow", "1 Fri, 16 May 2026 12:00:00 +0000",
       "2 Fri, 16 May 2026 12:00:01 +0000", "."]
  messageId := crlfText ["225 headers follow", "0 Fri, 16 May 2026 12:00:00 +0000", "."]
  first := crlfText ["225 headers follow", "1 Fri, 16 May 2026 12:00:00 +0000", "."]
  secondAndThird :=
    crlfText
      ["225 headers follow", "2 Fri, 16 May 2026 12:00:01 +0000",
       "3 Fri, 16 May 2026 12:00:02 +0000", "."]
  second := crlfText ["225 headers follow", "2 Fri, 16 May 2026 12:00:01 +0000", "."]
  third := crlfText ["225 headers follow", "3 Fri, 16 May 2026 12:00:02 +0000", "."]

def HDR_REFERENCES_RESPONSES : HeaderResponses where
  all := crlfText ["225 headers follow", "1 ", "2 <ref@example.com>", "."]
  messageId := crlfText ["225 headers follow", "0 ", "."]
  first := crlfText ["225 headers follow", "1 ", "."]
  secondAndThird :=
    crlfText ["225 headers follow", "2 <ref@example.com>", "3 <two@example.com>", "."]
  second := crlfText ["225 headers follow", "2 <ref@example.com>", "."]
  third := crlfText ["225 headers follow", "3 <two@example.com>", "."]

def HDR_MESSAGE_ID_RESPONSES : HeaderResponses where
  all := crlfText ["225 headers follow", "1 <one@example.com>", "2 <two@example.com>", "."]
  messageId := crlfText ["225 headers follow", "0 <one@example.com>", "."]
  first := crlfText ["225 headers follow", "1 <one@example.com>", "."]
  secondAndThird :=
    crlfText ["225 headers follow", "2 <two@example.com>", "3 <three@example.com>", "."]
  second := crlfText ["225 headers follow", "2 <two@example.com>", "."]
  third := crlfText ["225 headers follow", "3 <three@example.com>", "."]

def HDR_BYTES_RESPONSES : HeaderResponses where
  all := crlfText ["225 headers follow", "1 123", "2 456", "."]
  messageId := crlfText ["225 headers follow", "0 123", "."]
  first := crlfText ["225 headers follow", "1 123", "."]
  secondAndThird := crlfText ["225 headers follow", "2 456", "3 789", "."]
  second := crlfText ["225 headers follow", "2 456", "."]
  third := crlfText ["225 headers follow", "3 789", "."]

def HDR_LINES_RESPONSES : HeaderResponses where
  all := crlfText ["225 headers follow", "1 4", "2 8", "."]
  messageId := crlfText ["225 headers follow", "0 4", "."]
  first := crlfText ["225 headers follow", "1 4", "."]
  secondAndThird := crlfText ["225 headers follow", "2 8", "3 12", "."]
  second := crlfText ["225 headers follow", "2 8", "."]
  third := crlfText ["225 headers follow", "3 12", "."]

def XHDR_SUBJECT_RESPONSES : HeaderResponses where
  all := crlfText ["221 headers follow", "1 example one", "2 example two", "."]
  messageId := crlfText ["221 headers follow", "<one@example.com> example one", "."]
  first := crlfText ["221 headers follow", "1 example one", "."]
  secondAndThird := crlfText ["221 headers follow", "2 example two", "3 example three", "."]
  second := crlfText ["221 headers follow", "2 example two", "."]
  third := crlfText ["221 headers follow", "3 example three", "."]

def XHDR_FROM_RESPONSES : HeaderResponses where
  all := crlfText ["221 headers follow", "1 one@example.com", "2 two@example.com", "."]
  messageId := crlfText ["221 headers follow", "<one@example.com> one@example.com", "."]
  first := crlfText ["221 headers follow", "1 one@example.com", "."]
  secondAndThird := crlfText ["221 headers follow", "2 two@example.com", "3 three@example.com", "."]
  second := crlfText ["221 headers follow", "2 two@example.com", "."]
  third := crlfText ["221 headers follow", "3 three@example.com", "."]

def XHDR_DATE_RESPONSES : HeaderResponses where
  all :=
    crlfText
      ["221 headers follow", "1 Fri, 16 May 2026 12:00:00 +0000",
       "2 Fri, 16 May 2026 12:00:01 +0000", "."]
  messageId :=
    crlfText ["221 headers follow", "<one@example.com> Fri, 16 May 2026 12:00:00 +0000", "."]
  first := crlfText ["221 headers follow", "1 Fri, 16 May 2026 12:00:00 +0000", "."]
  secondAndThird :=
    crlfText
      ["221 headers follow", "2 Fri, 16 May 2026 12:00:01 +0000",
       "3 Fri, 16 May 2026 12:00:02 +0000", "."]
  second := crlfText ["221 headers follow", "2 Fri, 16 May 2026 12:00:01 +0000", "."]
  third := crlfText ["221 headers follow", "3 Fri, 16 May 2026 12:00:02 +0000", "."]

def XHDR_REFERENCES_RESPONSES : HeaderResponses where
  all := crlfText ["221 headers follow", "1 ", "2 <ref@example.com>", "."]
  messageId := crlfText ["221 headers follow", "<one@example.com> ", "."]
  first := crlfText ["221 headers follow", "1 ", "."]
  secondAndThird :=
    crlfText ["221 headers follow", "2 <ref@example.com>", "3 <two@example.com>", "."]
  second := crlfText ["221 headers follow", "2 <ref@example.com>", "."]
  third := crlfText ["221 headers follow", "3 <two@example.com>", "."]

def XHDR_MESSAGE_ID_RESPONSES : HeaderResponses where
  all := crlfText ["221 headers follow", "1 <one@example.com>", "2 <two@example.com>", "."]
  messageId := crlfText ["221 headers follow", "<one@example.com> <one@example.com>", "."]
  first := crlfText ["221 headers follow", "1 <one@example.com>", "."]
  secondAndThird :=
    crlfText ["221 headers follow", "2 <two@example.com>", "3 <three@example.com>", "."]
  second := crlfText ["221 headers follow", "2 <two@example.com>", "."]
  third := crlfText ["221 headers follow", "3 <three@example.com>", "."]

def XHDR_BYTES_RESPONSES : HeaderResponses where
  all := crlfText ["221 headers follow", "1 123", "2 456", "."]
  messageId := crlfText ["221 headers follow", "<one@example.com> 123", "."]
  first := crlfText ["221 headers follow", "1 123", "."]
  secondAndThird := crlfText ["221 headers follow", "2 456", "3 789", "."]
  second := crlfText ["221 headers follow", "2 456", "."]
  third := crlfText ["221 headers follow", "3 789", "."]

def XHDR_LINES_RESPONSES : HeaderResponses where
  all := crlfText ["221 headers follow", "1 4", "2 8", "."]
  messageId := crlfText ["221 headers follow", "<one@example.com> 4", "."]
  first := crlfText ["221 headers follow", "1 4", "."]
  secondAndThird := crlfText ["221 headers follow", "2 8", "3 12", "."]
  second := crlfText ["221 headers follow", "2 8", "."]
  third := crlfText ["221 headers follow", "3 12", "."]

def HEAD_RESPONSE : Bytes :=
  crlfText
    ["221 1 <article.1@nntpbench.local> article retrieved", "Path: nntpbench.local!mock",
     "From: Bench User <bench@nntpbench.local>", "Newsgroups: alt.binaries.bench",
     "Subject: nntpbench synthetic article", "Message-ID: <article.1@nntpbench.local>",
     "Date: Fri, 15 May 2026 00:00:00 +0000", "."]

def STAT_RESPONSE : Bytes := crlfText ["223 1 <article.1@nntpbench.local> article retrieved"]

def HELP_RESPONSE : Bytes :=
  crlfText
    ["100 help text follows", "ARTICLE", "BODY", "CAPABILITIES", "DATE", "GROUP", "HDR", "HEAD",
     "HELP", "LAST", "LIST", "LISTGROUP", "MODE READER", "NEWGROUPS", "NEWNEWS", "NEXT", "OVER",
     "QUIT", "STAT", "XHDR", "XOVER", "."]

def CAPABILITIES_RESPONSE : Bytes :=
  crlfText
    ["101 Capability list:", "VERSION 2", "READER",
     "LIST ACTIVE ACTIVE.TIMES DISTRIB.PATS NEWSGROUPS OVERVIEW.FMT HEADERS", "OVER MSGID", "HDR",
     "NEWNEWS", "."]

def MODE_READER_RESPONSE : Bytes := crlfText ["201 posting not permitted"]

def QUIT_RESPONSE : Bytes := crlfText ["205 closing connection"]

def BODY_RESPONSE_PREFIX : Bytes := crlfText ["222 1 <article.1@nntpbench.local> body follows"]

def ARTICLE_RESPONSE_PREFIX : Bytes :=
  crlfText
    ["220 1 <article.1@nntpbench.local> article follows", "Path: nntpbench.local!mock",
     "From: Bench User <bench@nntpbench.local>", "Newsgroups: alt.binaries.bench",
     "Subject: nntpbench synthetic article", "Message-ID: <article.1@nntpbench.local>",
     "Date: Fri, 15 May 2026 00:00:00 +0000", ""]

def BODY_LINE : Bytes :=
  crlfText ["This is synthetic NNTP article payload for throughput and latency benchmarking"]

end NntpBench.Server
