import Lockstep.Idna.CodeMap

/-!
# Mapping of domain names

How each code point of a domain name is folded before the name is used: letters to lower case,
variants to the form that they stand for, invisible code points to nothing (UTS 46, without the
transitional and the host name rules, Unicode 15.1).
-/

namespace Lockstep.Idna

def mapping : CodeMap := CodeMap.ofLines
  ["21V1:31M1:32M1:33M1:34M1:35M1:36M1:37M1:38M1:39M1:3aM1:3bM1:3cM1:3dM1:3eM1:3fM1:3gM1:3hM1:3iM1",
   ":3jM1:3kM1:3lM1:3mM1:3nM1:3oM1:3pM1:3qM15V10X1:10M7V1:10.o8M1V1:31M2V1I1V1:10.o4M2V1:1iM1:1jM1",
   ":10.o1M1:tsM2V1:10.p7M1:1hM1:3fM1V1:1h.824.1kM1:1h.824.1iM1:1j.824.1kM1V1:70M1:71M1:72M1:73M1:",
   "74M1:75M1:76M1:77M1:78M1:79M1:7aM1:7bM1:7cM1:7dM1:7eM1:7fM1:7gM1:7hM1:7iM1:7jM1:7kM1:7lM1:7mM1",
   "V1:7oM1:7pM1:7qM1:7rM1:7sM1:7tM1:7uM11V1:81M1V1:83M1V1:85M1V1:87M1V1:89M1V1:8bM1V1:8dM1V1:8fM1",
   "V1:8hM1V1:8jM1V1:8lM1V1:8nM1V1:8pM1V1:8rM1V1:8tM1V1:8vM1V1:91M1V1:93M1V1:95M1V1:97M1V1:99M1V1:",
   "9bM1V1:9dM1V1:9fM1V1:39.o7M1V2:39.3aM1:9lM1V1:9nM2V1:9qM1V1:9sM1V1:9uM1V2:3c.5nM1:a2M1V1:a4M1V",
   "1:a6M1V1:a8M1V1:ls.3eM1:abM1V1:adM1V1:afM1V1:ahM1V1:ajM1V1:alM1V1:anM1V1:apM1V1:arM1V1:atM1V1:",
   "avM1V1:b1M1V1:b3M1V1:b5M1V1:b7M1V1:b9M1V1:bbM1V1:bdM1V1:bfM1V1:bhM1V1:bjM1V1:blM1V1:bnM1V1:7vM",
   "1:bqM1V1:bsM1V1:buM1V1:3jM1V1:ijM1:c3M1V1:c5M1V1:ikM1:c8M1V1:imM1:inM1:ccM2V1:etM1:ipM1:irM1:c",
   "iM1V1:j0M1:j3M1V1:j9M1:j8M1:cpM3V1:jfM1:jiM1V1:jlM1:d1M1V1:d3M1V1:d5M1V1:k0M1:d8M1V1:k3M2V1:dd",
   "M1V1:k8M1:dgM1V1:kaM1:kbM1:dkM1V1:dmM1V1:kiM1:dpM3V1:dtM7V3:34.buM3:3c.3aM3:3e.3aM1:eeM1V1:egM",
   "1V1:eiM1V1:ekM1V1:emM1V1:eoM1V1:eqM1V1:esM2V1:evM1V1:f1M1V1:f3M1V1:f5M1V1:f7M1V1:f9M1V1:fbM1V1",
   ":fdM1V1:ffM2V3:34.3qM1:flM1V1:clM1:dvM1:fpM1V1:frM1V1:ftM1V1:fvM1V1:g1M1V1:g3M1V1:g5M1V1:g7M1V",
   "1:g9M1V1:gbM1V1:gdM1V1:gfM1V1:ghM1V1:gjM1V1:glM1V1:gnM1V1:gpM1V1:grM1V1:gtM1V1:gvM1V1:cuM1V1:h",
   "3M1V1:h5M1V1:h7M1V1:h9M1V1:hbM1V1:hdM1V1:hfM1V1:hhM1V1:hjM7V1:b35M1:hsM1V1:cqM1:b36M2V1:i2M1V1",
   ":c0M1:k9M1:kcM1:i7M1V1:i9M1V1:ibM1V1:idM1V1:ifM31V1:38M1:j6M1:3aM1:3iM1:jpM1:jrM1:k1M1:3nM1:3p",
   "MvV1:10.o6M1:10.o7M1:10.oaM1:10.p8M1:10.o3M1:10.obM2V1:j3M1:3cM1:3jM1:3oM1:klM2rV1:o0M1:o1M1V1",
   ":ojM1:o8.o1M1:tpM9V1I10V1:rhM1V1:rjM1V1:lpM1V1:rnM1V2X1:10.tpM3V1:1rM1:vjM4X1:10.o1M1:10.o8.o1",
   "M1:tcM1:5nM1:tdM1:teM1:tfM1X1:ucM1X1:udM1:ueM1V1:thM1:tiM1:tjM1:tkM1:tlM1:tmM1:tnM1:toM1:tpM1:",
   "tqM1:trM1:tsM1:ttM1:tuM1:tvM1:u0M1:u1M1X1:u3M1:u4M1:u5M1:u6M1:u7M1:u8M1:u9M1:uaM1:ubM13V1:unM1",
   ":tiM1:toM1:u5M1:udM1:ubM1:u6M1:u0M1V1:upM1V1:urM1V1:utM1V1:uvM1V1:v1M1V1:v3M1V1:v5M1V1:v7M1V1:",
   "v9M1V1:vbM1V1:vdM1V1:vfM1V1:tqM1:u1M1:u3M1V1:toM1:tlM1V1:voM1V1:u3M1:vrM2V1:rrM1:rsM1:rtM1:12g",
   "M1:12hM1:12iM1:12jM1:12kM1:12lM1:12mM1:12nM1:12oM1:12pM1:12qM1:12rM1:12sM1:12tM1:12uM1:12vM1:1",
   "1gM1:11hM1:11iM1:11jM1:11kM1:11lM1:11mM1:11nM1:11oM1:11pM1:11qM1:11rM1:11sM1:11tM1:11uM1:11vM1",
   ":120M1:121M1:122M1:123M1:124M1:125M1:126M1:127M1:128M1:129M1:12aM1:12bM1:12cM1:12dM1:12eM1:12f",
   "M1gV1:131M1V1:133M1V1:135M1V1:137M1V1:139M1V1:13bM1V1:13dM1V1:13fM1V1:13hM1V1:13jM1V1:13lM1V1:",
   "13nM1V1:13pM1V1:13rM1V1:13tM1V1:13vM1V1:141M9V1:14bM1V1:14dM1V1:14fM1V1:14hM1V1:14jM1V1:14lM1V",
   "1:14nM1V1:14pM1V1:14rM1V1:14tM1V1:14vM1V1:151M1V1:153M1V1:155M1V1:157M1V1:159M1V1:15bM1V1:15dM",
   "1V1:15fM1V1:15hM1V1:15jM1V1:15lM1V1:15nM1V1:15pM1V1:15rM1V1:15tM1V1:15vM1V1X1:162M1V1:164M1V1:",
   "166M1V1:168M1V1:16aM1V1:16cM1V1:16eM2V1:16hM1V1:16jM1V1:16lM1V1:16nM1V1:16pM1V1:16rM1V1:16tM1V",
   "1:16vM1V1:171M1V1:173M1V1:175M1V1:177M1V1:179M1V1:17bM1V1:17dM1V1:17fM1V1:17hM1V1:17jM1V1:17lM",
   "1V1:17nM1V1:17pM1V1:17rM1V1:17tM1V1:17vM1V1:181M1V1:183M1V1:185M1V1:187M1V1:189M1V1:18bM1V1:18",
   "dM1V1:18fM1V1:18hM1V1:18jM1V1:18lM1V1:18nM1V1:18pM1V1:18rM1V1:18tM1V1:18vM1V1:191M1V1:193M1V1:",
   "195M1V1:197M1V1:199M1V1:19bM1V1:19dM1V1:19fM1V1X1:1b1M1:1b2M1:1b3M1:1b4M1:1b5M1:1b6M1:1b7M1:1b",
   "8M1:1b9M1:1baM1:1bbM1:1bcM1:1bdM1:1beM1:1bfM1:1bgM1:1bhM1:1biM1:1bjM1:1bkM1:1blM1:1bmM1:1bnM1:",
   "1boM1:1bpM1:1bqM1:1brM1:1bsM1:1btM1:1buM1:1bvM1:1c0M1:1c1M1:1c2M1:1c3M1:1c4M1:1c5M1:1c6M2X1eV1",
   ":1b5.1c2M3V2X3V1X1nV8XrV4X6VhXmV1X2oV1:1h7.1jkM1:1i8.1jkM1:1m7.1jkM1:1ia.1jkM34V1X1gV2X1rV2X35",
   "VeX1rV2X1hV2XfV1XsV2X1V1XbV5XvV9X2aV1X3lV1:28l.29sM1:28m.29sM1:28n.29sM1:28s.29sM1:291.29sM1:2",
   "92.29sM1:29b.29sM1:29f.29sM14V1X8V2X2V2XmV1X7V1X1V3X4V2X9V2X2V2X4V8X1V4X1:2d1.2dsM1:2d2.2dsM1X",
   "1:2df.2dsM4V2XpV2X3V1X6V4X2V2XmV1X7V1X1V1:2hi.2hsM1X1V1:2ho.2hsM1X2V2X1V1X5V4X2V2X3V3X1V7X1:2g",
   "m.2hsM1:2gn.2hsM1:2gs.2hsM1V1X1:2hb.2hsM7XhVaX3V1X9V1X3V1XmV1X7V1X2V1X5V2XaV1X3V1X3V2X1VfX4V2X",
   "cV7X7V1X3V1X8V2X2V2XmV1X7V1X2V1X5V2X9V2X2V2X3V7X3V4X1:2p1.2psM1:2p2.2psM1X5V2XiVaX2V1X6V3X3V1X",
   "4V3X2V1X1V1X2V3X2V3X3V3XcV4X5V3X3V1X4V2X1V6X1VeXlV5XdV1X3V1XnV1XgV2X9V1X3V1X4V7X2V1X3V2X1V2X4V",
   "2XaV7XmV1X3V1XnV1XaV1X5V2X9V1X3V1X4V7X2V6X2V1X4V2XaV1X3VcXdV1X3V1X1jV1X3V1X6V4XgV2XqV1X3V1XiV3",
   "XoV1X9V1X1V2X7V3X1V4X6V1X1V1X8V6XaV2X3VcX1iV1:3id.3hiM7V4XtV15X2V1X1V1X5V1XoV1X1V1XcV1:3md.3li",
   "MaV2X5V1X1V1X7V1XaV2X1:3lb.3kpM1:3lb.3l1M2V10XcV1:3obM1mV1:3q2.3tnM4V1X4V1:3qc.3tnM4V1:3qh.3tn",
   "M4V1:3qm.3tnM4V1:3qr.3tnMcV1:3q0.3tlM3V4X2V1:3rh.3riM1V1:3rh.3rkM1:3ti.3s0M1:3ti.3rh.3s0M1:3tj",
   ".3s0M1:3tj.3rh.3s0M7V1:3rh.3s0MhV1:3si.3tnM4V1X4V1:3ss.3tnM4V1:3t1.3tnM4V1:3t6.3tnM4V1:3tb.3tn",
   "McV1:3sg.3tlM3V1XfV1XdV15X50V17X1:b97M5X1:b9dM2X1cV1:46sM32V2X78V1X4V2X7V1X1V1X4V2X19V1X4V2X11",
   "V1X4V2X7V1X1V1X4V2XfV1X1pV1X4V2X23V2X10V3XqV6X2mV2X1:4vgM1:4vhM1:4viM1:4vjM1:4vkM1:4vlM2Xk0V1X",
   "sV3X2pV7XmV9XoV9XkVcXdV1X3V1X2VcX1kV2X18V2XaV6XaV6X6V1X4V3I1X1IaV6X2pV7X1bV5X26VaXvV1XcV4XcV4X",
   "1V3X1aV2X5VbX1cV4XqV6XbV3X1uV2X21V1XtV2XbV6XaV6XeV2XvV1hX2dV3X1fV1X3kV8X1sV3XfV3X1jV1:11iM1:11",
   "kM1:11uM1:121M2:122M1:12aM1:133M1:19ibM7X1:46gM1:46hM1:46iM1:46jM1:46kM1:46lM1:46mM1:46nM1:46o",
   "M1:46pM1:46qM1:46rM1:46sM1:46tM1:46uM1:46vM1:470M1:471M1:472M1:473M1:474M1:475M1:476M1:477M1:4",
   "78M1:479M1:47aM1:47bM1:47cM1:47dM1:47eM1:47fM1:47gM1:47hM1:47iM1:47jM1:47kM1:47lM1:47mM1:47nM1",
   ":47oM1:47pM1:47qM2X1:47tM1:47uM1:47vM8V8X1bV5X1cV1:31M1:76M1:32M1V1:34M1:35M1:etM1:37M1:38M1:3",
   "9M1:3aM1:3bM1:3cM1:3dM1:3eM1V1:3fM1:h3M1:3gM1:3iM1:3kM1:3lM1:3nM1:31M1:igM1:ihM1:782M1:32M1:34",
   "M1:35M1:ipM1:irM1:isM1:37M1V1:3bM1:3dM1:abM1:3fM1:ikM1:78mM1:78nM1:3gM1:3kM1:3lM1:78tM1:jfM1:3",
   "mM1:795M1:tiM1:tjM1:tkM1:u6M1:u7M1:39M1:3iM1:3lM1:3mM1:tiM1:tjM1:u1M1:u6M1:u7MdV1:11tM12V1:iiM",
   "1:33M1:ilM1:7gM1:isM1:36M1:ivM1:j1M1:j5M1:j8M1:j9M1:jaM1:7brM1:ktM1:jdM1:7c5M1:kvM1:jhM1:jgM1:",
   "jiM1:jjM1:jkM1:jlM1:joM1:k2M1:k3M1:dbM1:k9M1:kaM1:78sM1:kbM1:kcM1:3qM1:kgM1:khM1:kiM1:toM20V1:",
   "7g1M1V1:7g3M1V1:7g5M1V1:7g7M1V1:7g9M1V1:7gbM1V1:7gdM1V1:7gfM1V1:7ghM1V1:7gjM1V1:7glM1V1:7gnM1V",
   "1:7gpM1V1:7grM1V1:7gtM1V1:7gvM1V1:7h1M1V1:7h3M1V1:7h5M1V1:7h7M1V1:7h9M1V1:7hbM1V1:7hdM1V1:7hfM",
   "1V1:7hhM1V1:7hjM1V1:7hlM1V1:7hnM1V1:7hpM1V1:7hrM1V1:7htM1V1:7hvM1V1:7i1M1V1:7i3M1V1:7i5M1V1:7i",
   "7M1V1:7i9M1V1:7ibM1V1:7idM1V1:7ifM1V1:7ihM1V1:7ijM1V1:7ilM1V1:7inM1V1:7ipM1V1:7irM1V1:7itM1V1:",
   "7ivM1V1:7j1M1V1:7j3M1V1:7j5M1V1:7j7M1V1:7j9M1V1:7jbM1V1:7jdM1V1:7jfM1V1:7jhM1V1:7jjM1V1:7jlM1V",
   "1:7jnM1V1:7jpM1V1:7jrM1V1:7jtM1V1:7jvM1V1:7k1M1V1:7k3M1V1:7k5M1V1:7k7M1V1:7k9M1V1:7kbM1V1:7kdM",
   "1V1:7kfM1V1:7khM1V1:7kjM1V1:7klM5V1:31.luM1:7j1M2V1:6vM1V1:7l1M1V1:7l3M1V1:7l5M1V1:7l7M1V1:7l9",
   "M1V1:7lbM1V1:7ldM1V1:7lfM1V1:7lhM1V1:7ljM1V1:7llM1V1:7lnM1V1:7lpM1V1:7lrM1V1:7ltM1V1:7lvM1V1:7",
   "m1M1V1:7m3M1V1:7m5M1V1:7m7M1V1:7m9M1V1:7mbM1V1:7mdM1V1:7mfM1V1:7mhM1V1:7mjM1V1:7mlM1V1:7mnM1V1",
   ":7mpM1V1:7mrM1V1:7mtM1V1:7mvM1V1:7n1M1V1:7n3M1V1:7n5M1V1:7n7M1V1:7n9M1V1:7nbM1V1:7ndM1V1:7nfM1",
   "V1:7nhM1V1:7njM1V1:7nlM1V1:7nnM1V1:7npM1V1:7nrM1V1:7ntM1V1:7nvM9V1:7o0M1:7o1M1:7o2M1:7o3M1:7o4",
   "M1:7o5M1:7o6M1:7o7M6V2X1:7ogM1:7ohM1:7oiM1:7ojM1:7okM1:7olM2X8V1:7p0M1:7p1M1:7p2M1:7p3M1:7p4M1",
   ":7p5M1:7p6M1:7p7M8V1:7pgM1:7phM1:7piM1:7pjM1:7pkM1:7plM1:7pmM1:7pnM6V2X1:7q0M1:7q1M1:7q2M1:7q3",
   "M1:7q4M1:7q5M2X8V1X1:7qhM1X1:7qjM1X1:7qlM1X1:7qnM8V1:7r0M1:7r1M1:7r2M1:7r3M1:7r4M1:7r5M1:7r6M1",
   ":7r7M1V1:tcM1V1:tdM1V1:teM1V1:tfM1V1:ucM1V1:udM1V1:ueM2X1:7o0.tpM1:7o1.tpM1:7o2.tpM1:7o3.tpM1:",
   "7o4.tpM1:7o5.tpM1:7o6.tpM1:7o7.tpM1:7o0.tpM1:7o1.tpM1:7o2.tpM1:7o3.tpM1:7o4.tpM1:7o5.tpM1:7o6.",
   "tpM1:7o7.tpM1:7p0.tpM1:7p1.tpM1:7p2.tpM1:7p3.tpM1:7p4.tpM1:7p5.tpM1:7p6.tpM1:7p7.tpM1:7p0.tpM1",
   ":7p1.tpM1:7p2.tpM1:7p3.tpM1:7p4.tpM1:7p5.tpM1:7p6.tpM1:7p7.tpM1:7r0.tpM1:7r1.tpM1:7r2.tpM1:7r3",
   ".tpM1:7r4.tpM1:7r5.tpM1:7r6.tpM1:7r7.tpM1:7r0.tpM1:7r1.tpM1:7r2.tpM1:7r3.tpM1:7r4.tpM1:7r5.tpM",
   "1:7r6.tpM1:7r7.tpM2V1:7rg.tpM1:th.tpM1:tc.tpM1X1V1:7tm.tpM1:7tgM1:7thM1:7rgM1:tcM1:th.tpM1:10.",
   "ojM1:tpM1:10.ojM1:10.q2M1:10.o8.q2M1:7rk.tpM1:tn.tpM1:te.tpM1X1V1:7u6.tpM1:7riM1:tdM1:7rkM1:te",
   "M1:tn.tpM1:10.oj.o0M1:10.oj.o1M1:10.oj.q2M3V1:sgM2X2V1:7ugM1:7uhM1:7rmM1:tfM1X1:10.ok.o0M1:10.",
   "ok.o1M1:10.ok.q2M3V1:tgM4V1:7v0M1:7v1M1:7rqM1:udM1:7v5M1:10.o8.o0M1:10.o8.o1M1:30M2X1:7rs.tpM1",
   ":u9.tpM1:ue.tpM1X1V1:7vm.tpM1:7roM1:ucM1:7rsM1:ueM1:u9.tpM1:10.o1M1:10.okM1Xb:10M1I2V2X1V1:80g",
   "M5V1:10.pjMcV3X1V7X1:10M3V1:81i.81iM1:81i.81i.81iM1V1:81l.81lM1:81l.81l.81lM4V1:11.11M1V1:10.o",
   "5M8V1:1v.1vM1:1v.11M1:11.1vMdV1:81i.81i.81i.81iM7V1:10M1I3X1IbX1:1gM1:39M2X1:1kM1:1lM1:1mM1:1n",
   "M1:1oM1:1pM1:1bM1:8giM1:1tM1:18M1:19M1:3eM1:1gM1:1hM1:1iM1:1jM1:1kM1:1lM1:1mM1:1nM1:1oM1:1pM1:",
   "1bM1:8giM1:1tM1:18M1:19M1X1:31M1:35M1:3fM1:3oM1:ipM1:38M1:3bM1:3cM1:3dM1:3eM1:3gM1:3jM1:3kM3X8",
   "V1:3i.3jMoVfX11VfX1:31.1f.33M1:31.1f.3jM1:33M1:5g.33M1V1:33.1f.3fM1:33.1f.3lM1:irM1V1:5g.36M1:",
   "37M4:38M1:97M2:39M2:3cM1V1:3eM1:3e.3fM2V1:3gM1:3hM3:3iM2V1:3j.3dM1:3k.35.3cM1:3k.3dM1V1:3qM1V1",
   ":u9M1V1:3qM1V1:3bM1:75M1:32M1:33M1V2:35M1:36M1X1:3dM1:3fM1:1egM1:1ehM1:1eiM1:1ejM1:39M1V1:36.3",
   "1.3oM1:u0M2:tjM1:u0M1:8ghM4V2:34M1:35M1:39M1:3aM6V1:1h.824.1nM1:1h.824.1pM1:1h.824.1h.1gM1:1h.",
   "824.1jM1:1i.824.1jM1:1h.824.1lM1:1i.824.1lM1:1j.824.1lM1:1k.824.1lM1:1h.824.1mM1:1l.824.1mM1:1",
   "h.824.1oM1:1j.824.1oM1:1l.824.1oM1:1n.824.1oM1:1h.824M1:39M1:39.39M1:39.39.39M1:39.3mM1:3mM1:3",
   "m.39M1:3m.39.39M1:3m.39.39.39M1:39.3oM1:3oM1:3o.39M1:3o.39.39M1:3cM1:33M1:34M1:3dM1:39M1:39.39",
   "M1:39.39.39M1:39.3mM1:3mM1:3m.39M1:3m.39.39M1:3m.39.39.39M1:39.3oM1:3oM1:3o.39M1:3o.39.39M1:3c",
   "M1:33M1:34M1:3dM3V1X5V1:1g.824.1jM2V4X4sV1:8hb.8hbM1:8hb.8hb.8hbM1V1:8he.8heM1:8he.8he.8heM7oV",
   "1:c08M1:c09M7sVpXbVlX1:1hM1:1iM1:1jM1:1kM1:1lM1:1mM1:1nM1:1oM1:1pM1:1h.1gM1:1h.1hM1:1h.1iM1:1h",
   ".1jM1:1h.1kM1:1h.1lM1:1h.1mM1:1h.1nM1:1h.1oM1:1h.1pM1:1i.1gM1:18.1h.19M1:18.1i.19M1:18.1j.19M1",
   ":18.1k.19M1:18.1l.19M1:18.1m.19M1:18.1n.19M1:18.1o.19M1:18.1p.19M1:18.1h.1g.19M1:18.1h.1h.19M1",
   ":18.1h.1i.19M1:18.1h.1j.19M1:18.1h.1k.19M1:18.1h.1l.19M1:18.1h.1m.19M1:18.1h.1n.19M1:18.1h.1o.",
   "19M1:18.1h.1p.19M1:18.1i.1g.19MkX1:18.31.19M1:18.32.19M1:18.33.19M1:18.34.19M1:18.35.19M1:18.3",
   "6.19M1:18.37.19M1:18.38.19M1:18.39.19M1:18.3a.19M1:18.3b.19M1:18.3c.19M1:18.3d.19M1:18.3e.19M1",
   ":18.3f.19M1:18.3g.19M1:18.3h.19M1:18.3i.19M1:18.3j.19M1:18.3k.19M1:18.3l.19M1:18.3m.19M1:18.3n",
   ".19M1:18.3o.19M1:18.3p.19M1:18.3q.19M1:31M1:32M1:33M1:34M1:35M1:36M1:37M1:38M1:39M1:3aM1:3bM1:",
   "3cM1:3dM1:3eM1:3fM1:3gM1:3hM1:3iM1:3jM1:3kM1:3lM1:3mM1:3nM1:3oM1:3pM1:3qM1:31M1:32M1:33M1:34M1",
   ":35M1:36M1:37M1:38M1:39M1:3aM1:3bM1:3cM1:3dM1:3eM1:3fM1:3gM1:3hM1:3iM1:3jM1:3kM1:3lM1:3mM1:3nM",
   "1:3oM1:3pM1:3qM1:1gM191V1:8hb.8hb.8hb.8hbM37V1:1q.1q.1tM1:1t.1tM1:1t.1t.1tM35V1:amt.poM4nV2X10",
   "V1X39V1:b1gM1:b1hM1:b1iM1:b1jM1:b1kM1:b1lM1:b1mM1:b1nM1:b1oM1:b1pM1:b1qM1:b1rM1:b1sM1:b1tM1:b1",
   "uM1:b1vM1:b20M1:b21M1:b22M1:b23M1:b24M1:b25M1:b26M1:b27M1:b28M1:b29M1:b2aM1:b2bM1:b2cM1:b2dM1:",
   "b2eM1:b2fM1:b2gM1:b2hM1:b2iM1:b2jM1:b2kM1:b2lM1:b2mM1:b2nM1:b2oM1:b2pM1:b2qM1:b2rM1:b2sM1:b2tM",
   "1:b2uM1:b2vM1gV1:b31M1V1:jbM1:7btM1:jtM2V1:b38M1V1:b3aM1V1:b3cM1V1:ihM1:jhM1:igM1:iiM1V1:b3jM2",
   "V1:b3mM6V1:3aM1:3mM1:hvM1:i0M1:b41M1V1:b43M1V1:b45M1V1:b47M1V1:b49M1V1:b4bM1V1:b4dM1V1:b4fM1V1",
   ":b4hM1V1:b4jM1V1:b4lM1V1:b4nM1V1:b4pM1V1:b4rM1V1:b4tM1V1:b4vM1V1:b51M1V1:b53M1V1:b55M1V1:b57M1",
   "V1:b59M1V1:b5bM1V1:b5dM1V1:b5fM1V1:b5hM1V1:b5jM1V1:b5lM1V1:b5nM1V1:b5pM1V1:b5rM1V1:b5tM1V1:b5v",
   "M1V1:b61M1V1:b63M1V1:b65M1V1:b67M1V1:b69M1V1:b6bM1V1:b6dM1V1:b6fM1V1:b6hM1V1:b6jM1V1:b6lM1V1:b",
   "6nM1V1:b6pM1V1:b6rM1V1:b6tM1V1:b6vM1V1:b71M1V1:b73M8V1:b7cM1V1:b7eM4V1:b7jM1V5X1dV1X1V5X1V2X1o",
   "V7X1:bb1M1VeXoV9X7V1X7V1X7V1X7V1X7V1X7V1X7V1X7V1X3uV12XqV1X4V1:qudM2jV1:17svMcX1:jg0M1:jh8M1:j",
   "hmM1:jhvM1:jipM1:jk5M1:jkcM1:jl0M1:jlqM1:k9vM1:kb5M1:kbbM1:kc2M1:kcmM1:kdbM1:kf0M1:kflM1:kg0M1",
   ":kkrM1:knpM1:kolM1:koqM1:kpoM1:kq1M1:kqsM1:kr9M1:ks2M1:ktmM1:ku8M1:kv3M1:lmnM1:lovM1:m7bM1:m82",
   "M1:m8aM1:m8lM1:m97M1:mbjM1:mqgM1:ms0M1:mvoM1:n0fM1:n12M1:n1oM1:n3eM1:n3hM1:nerM1:nf5M1:nfhM1:n",
   "fuM1:njiM1:njqM1:njvM1:nnkM1:nnuM1:nobM1:nojM1:nqgM1:nr1M1:nrjM1:nu3M1:og8M1:ohmM1:oibM1:p9fM1",
   ":p9kM1:pc7M1:pcnM1:pd4M1:pdpM1:pf0M1:pf5M1:pngM1:po8M1:pp8M1:qp0M1:qr2M1:qrpM1:qtjM1:qubM1:quk",
   "M1:qurM1:r0fM1:r0kM1:r1kM1:s3bM1:shaM1:shmM1:shrM1:shvM1:si7M1:sipM1:sirM1:slcM1:ss4M1:ss9M1:t",
   "6sM1:t76M1:t8oM1:t8vM1:t98M1:t9gM1:tcbM1:tciM1:tjmM1:tjtM1:tleM1:tlvM1:tneM1:turM1:tv2M1:tvjM1",
   ":u9qM1:udoM1:uduM1:ujkM1:umbM1:unpM1:v3jM1:v7oM1:vpmM1:vqhM1:vsaM1:vttM1:1001M1:100cM1:100iM1:",
   "101jM1:103vM1:1049M1:10f3M1:10faM1:10fjM1:10fsM1:10gcM1:10grM1:10gvM1:10jeM1:10jiM1:10joM1:11i",
   "dM1:11jbM1:1220M1:122cM1:1233M1:12buM1:12cbM1:12eiM1:12g0M1:131nM1:1326M1:132lM1:133oM1:134tM1",
   ":13b4M1:13bgM1:13djM1:13lbM1:13maM1:13srM1:13tgM1:13tlM1:144hM1:14a9M1:14e6M1:14ecM1:14ehM1:15",
   "bnM1:15c0M1:15gsM1:15lmM1:15lpM1:15n8M1:15qhM1:15quM1:15r2M1:15r9M1:15ubM1:15vdM1:15vjM1:1601M",
   "1:1658M1:166rM1:166vM1:16cmM1:16cpM1:16dcM1:16l8M1:16moM1:16mvM1:16p5M1:16pfM1:16piM1:16psM1:1",
   "6qqM1:1775M1:17jlM1:17jvM1:17l5M1:17lrM1:17m3M1:17mdM1:17mhM1:17npM1:17ntM1:17oeM1:17ojM1:17p0",
   "M1:17prM1:17qaM1:17qiM1:17sdM1:17ssM1:17t0M1aX1:10M1V1:1eM1jV1:c0iM1V1:kq1M1:kq4M1:kq5M5V1X2mV",
   "2X2V1:10.c4pM1:10.c4qM2V1:c48.c4aM2vV1:c5j.c68M5X1bV1X1:480M1:481M1:4daM1:482M1:4dcM1:4ddM1:48",
   "3M1:484M1:485M1:4dgM1:4dhM1:4diM1:4djM1:4dkM1:4dlM1:48qM1:486M1:487M1:488M1:491M1:489M1:48aM1:",
   "48bM1:48cM1:48dM1:48eM1:48fM1:48gM1:48hM1:48iM1:4b1M1:4b2M1:4b3M1:4b4M1:4b5M1:4b6M1:4b7M1:4b8M",
   "1:4b9M1:4baM1:4bbM1:4bcM1:4bdM1:4beM1:4bfM1:4bgM1:4bhM1:4biM1:4bjM1:4bkM1:4blM1X1:48kM1:48lM1:",
   "4e7M1:4e8M1:4ecM1:4eeM1:4ejM1:4enM1:4epM1:48sM1:4etM1:4evM1:48tM1:48uM1:490M1:492M1:493M1:497M",
   "1:499M1:49bM1:49cM1:49dM1:49eM1:49fM1:49iM1:49mM1:4a0M1:4a7M1:4acM1:4fhM1:4fiM1:4anM1:4aoM1:4a",
   "pM1:4c4M1:4c5M1:4c8M1:4chM1:4ciM1:4ckM1:4cuM1:4d1M1X2V1:jg0M1:jkcM1:jg9M1:lmrM1:jgaM1:jhdM1:jg",
   "bM1:t9iM1:jipM1:jgpM1:jg1M1:m99M1:lpgM1:jlqM24VcXgV1:18.480.19M1:18.482.19M1:18.483.19M1:18.48",
   "5.19M1:18.486.19M1:18.487.19M1:18.489.19M1:18.48b.19M1:18.48c.19M1:18.48e.19M1:18.48f.19M1:18.",
   "48g.19M1:18.48h.19M1:18.48i.19M1:18.1b00.19M1:18.1c4o.19M1:18.1cn4.19M1:18.1drs.19M1:18.1ee8.1",
   "9M1:18.1f0k.19M1:18.1g5c.19M1:18.1ha4.19M1:18.1hsg.19M1:18.1j18.19M1:18.1jjk.19M1:18.1k60.19M1",
   ":18.1koc.19M1:18.1lao.19M1:18.1i7s.19M1:18.1hh4.1i04.19M1:18.1hh4.1lm4.19M1X1:18.jg0.19M1:18.j",
   "kc.19M1:18.jg9.19M1:18.lmr.19M1:18.jkk.19M1:18.kbd.19M1:18.jg3.19M1:18.kbb.19M1:18.jit.19M1:18",
   ".kq1.19M1:18.po8.19M1:18.s3b.19M1:18.r1k.19M1:18.pp8.19M1:18.14eh.19M1:18.lov.19M1:18.pf5.19M1",
   ":18.q1a.19M1:18.po9.19M1:18.u9u.19M1:18.l0d.19M1:18.sjp.19M1:18.1351.19M1:18.uat.19M1:18.klk.1",
   "9M1:18.jn3.19M1:18.l3s.19M1:18.mr6.19M1:18.tn3.19M1:18.jo1.19M1:18.1367.19M1:18.kqk.19M1:18.ub",
   "d.19M1:18.joh.19M1:18.10fa.19M1:18.10fj.19M1:lafM1:njsM1:pc7M1:usfM8V1:3g.3k.35M1:1i.1hM1:1i.1",
   "iM1:1i.1jM1:1i.1kM1:1i.1lM1:1i.1mM1:1i.1nM1:1i.1oM1:1i.1pM1:1j.1gM1:1j.1hM1:1j.1iM1:1j.1jM1:1j",
   ".1kM1:1j.1lM1:480M1:482M1:483M1:485M1:486M1:487M1:489M1:48bM1:48cM1:48eM1:48fM1:48gM1:48hM1:48",
   "iM1:1b00M1:1c4oM1:1cn4M1:1drsM1:1ee8M1:1f0kM1:1g5cM1:1ha4M1:1hsgM1:1j18M1:1jjkM1:1k60M1:1kocM1",
   ":1laoM1:1j1o.1b70M1:1i7s.1hqoM1:1hlgM1V1:jg0M1:jkcM1:jg9M1:lmrM1:jkkM1:kbdM1:jg3M1:kbbM1:jitM1",
   ":kq1M1:po8M1:s3bM1:r1kM1:pp8M1:14ehM1:lovM1:pf5M1:q1aM1:po9M1:u9uM1:l0dM1:sjpM1:1351M1:uatM1:k",
   "lkM1:ueoM1:t9nM1:mbjM1:1439M1:k9aM1:krgM1:r78M1:1605M1:johM1:kcpM1:qr3M1:jgaM1:jhdM1:jgbM1:nf6",
   "M1:kvjM1:kprM1:msnM1:mr6M1:tn3M1:jo1M1:1367M1:kqkM1:m8sM1:1j.1mM1:1j.1nM1:1j.1oM1:1j.1pM1:1k.1",
   "gM1:1k.1hM1:1k.1iM1:1k.1jM1:1k.1kM1:1k.1lM1:1k.1mM1:1k.1nM1:1k.1oM1:1k.1pM1:1l.1gM1:1h.po8M1:1",
   "i.po8M1:1j.po8M1:1k.po8M1:1l.po8M1:1m.po8M1:1n.po8M1:1o.po8M1:1p.po8M1:1h.1g.po8M1:1h.1h.po8M1",
   ":1h.1i.po8M1:38.37M1:35.3i.37M1:35.3mM1:3c.3k.34M1:c52M1:c54M1:c56M1:c58M1:c5aM1:c5bM1:c5dM1:c",
   "5fM1:c5hM1:c5jM1:c5lM1:c5nM1:c5pM1:c5rM1:c5tM1:c5vM1:c61M1:c64M1:c66M1:c68M1:c6aM1:c6bM1:c6cM1",
   ":c6dM1:c6eM1:c6fM1:c6iM1:c6lM1:c6oM1:c6rM1:c6uM1:c6vM1:c70M1:c71M1:c72M1:c74M1:c76M1:c78M1:c79",
   "M1:c7aM1:c7bM1:c7cM1:c7dM1:c7fM1:c7gM1:c7hM1:c7iM1:jn4.l4cM1:c52.c6h.c7s.c68M1:c52.c7b.c6l.c51",
   "M1:c52.c7j.c6q.c52M1:c52.c7s.c7bM1:c54.c6b.c7j.c5gM1:c54.c7j.c61M1:c56.c59.c7jM1:c58.c5p.c5f.c",
   "7s.c69M1:c58.c7s.c5b.c7sM1:c5a.c7j.c5pM1:c5a.c7s.c70M1:c5b.c54.c7aM1:c5b.c79.c63.c68M1:c5b.c7d",
   ".c7a.c7sM1:c5c.c7d.c7jM1:c5c.c7j.c6uM1:c5e.c5cM1:c5e.c6b.c7sM1:c5d.c75.c7a.c7sM1:c5e.c7b.c60.c",
   "7sM1:c5d.c7dM1:c5d.c7d.c5g.c79.c70M1:c5d.c7d.c71.c7s.c68.c7bM1:c5d.c7d.c7f.c63.c68M1:c5g.c79.c",
   "70M1:c5g.c79.c70.c68.c7jM1:c5f.c7b.c5s.c54.c7dM1:c5f.c7d.c7s.c6dM1:c5h.c7s.c5pM1:c5j.c7b.c6aM1",
   ":c5j.c7s.c6tM1:c5l.c54.c5f.c7bM1:c5l.c7j.c61.c7s.c70M1:c5n.c7a.c7j.c5gM1:c5r.c7j.c61M1:c5r.c7j",
   ".c68M1:c60.c7s.c5pM1:c67.c5nM1:c69.c7bM1:c68.c7jM1:c6a.c6eM1:c6e.c63.c68M1:c6f.c54.c64M1:c6h.c",
   "7s.c5r.c7j.c68M1:c6h.c7s.c64M1:c6g.c7s.c7c.c7bM1:c6k.c52.c5p.c68.c7bM1:c6k.c5f.c7bM1:c6k.c5jM1",
   ":c6j.c7bM1:c6l.c51.c79.c63.c69M1:c6l.c53.c7s.c68M1:c6m.c63.c5n.c57.c7bM1:c6l.c79.c7jM1:c6o.c5f",
   ".c5v.c7s.c7bM1:c6q.c5tM1:c6q.c6b.c6iM1:c6o.c7b.c64M1:c6q.c7j.c5pM1:c6q.c7s.c5oM1:c6p.c7s.c5vM1",
   ":c6t.c54.c7j.c68M1:c6s.c7b.c68M1:c6r.c7jM1:c6t.c7j.c69M1:c6r.c7s.c7bM1:c6r.c7s.c7jM1:c6u.c54.c",
   "5f.c7dM1:c6u.c54.c7bM1:c6u.c63.c6fM1:c6u.c7b.c5fM1:c6u.c7j.c5n.c77.c7jM1:c6v.c5f.c7d.c7jM1:c6v",
   ".c7aM1:c6v.c7a.c6g.c7s.c7bM1:c71.c5cM1:c71.c5c.c68.c7jM1:c71.c7s.c68.c7bM1:c74.c7s.c69M1:c74.c",
   "7s.c7bM1:c76.c52.c7jM1:c7a.c63.c68.c7bM1:c7a.c79M1:c7b.c6k.c7sM1:c7b.c7s.c6m.c7bM1:c7c.c70M1:c",
   "7c.c7j.c68.c5i.c7jM1:c7f.c63.c68M1:1g.s5pM1:1h.s5pM1:1i.s5pM1:1j.s5pM1:1k.s5pM1:1l.s5pM1:1m.s5",
   "pM1:1n.s5pM1:1o.s5pM1:1p.s5pM1:1h.1g.s5pM1:1h.1h.s5pM1:1h.1i.s5pM1:1h.1j.s5pM1:1h.1k.s5pM1:1h.",
   "1l.s5pM1:1h.1m.s5pM1:1h.1n.s5pM1:1h.1o.s5pM1:1h.1p.s5pM1:1i.1g.s5pM1:1i.1h.s5pM1:1i.1i.s5pM1:1",
   "i.1j.s5pM1:1i.1k.s5pM1:38.3g.31M1:34.31M1:31.3lM1:32.31.3iM1:3f.3mM1:3g.33M1:34.3dM1:34.3d.1iM",
   "1:34.3d.1jM1:39.3lM1:njj.oggM1:phd.l4cM1:m97.qr3M1:pge.r5rM1:q1a.nof.joq.u9uM1:3g.31M1:3e.31M1",
   ":ts.31M1:3d.31M1:3b.31M1:3b.32M1:3d.32M1:37.32M1:33.31.3cM1:3b.33.31.3cM1:3g.36M1:3e.36M1:ts.3",
   "6M1:ts.37M1:3d.37M1:3b.37M1:38.3qM1:3b.38.3qM1:3d.38.3qM1:37.38.3qM1:3k.38.3qM1:ts.3cM1:3d.3cM",
   "1:34.3cM1:3b.3cM1:36.3dM1:3e.3dM1:ts.3dM1:3d.3dM1:33.3dM1:3b.3dM1:3d.3d.1iM1:33.3d.1iM1:3d.1iM",
   "1:3b.3d.1iM1:3d.3d.1jM1:33.3d.1jM1:3d.1jM1:3b.3d.1jM1:3d.8gl.3jM1:3d.8gl.3j.1iM1:3g.31M1:3b.3g",
   ".31M1:3d.3g.31M1:37.3g.31M1:3i.31.34M1:3i.31.34.8gl.3jM1:3i.31.34.8gl.3j.1iM1:3g.3jM1:3e.3jM1:",
   "ts.3jM1:3d.3jM1:3g.3mM1:3e.3mM1:ts.3mM1:3d.3mM1:3b.3mM1:3d.3mM1:3g.3nM1:3e.3nM1:ts.3nM1:3d.3nM",
   "1:3b.3nM1:3d.3nM1:3b.u9M1:3d.u9M1X1:32.3hM1:33.33M1:33.34M1:33.8gl.3b.37M1X1:34.32M1:37.3pM1:3",
   "8.31M1:38.3gM1:39.3eM1:3b.3bM1:3b.3dM1:3b.3kM1:3c.3dM1:3c.3eM1:3c.3f.37M1:3c.3oM1:3d.32M1:3d.3",
   "9.3cM1:3d.3f.3cM1:3g.38M1X1:3g.3g.3dM1:3g.3iM1:3j.3iM1:3j.3mM1:3n.32M1:3m.8gl.3dM1:31.8gl.3dM1",
   ":1h.pf5M1:1i.pf5M1:1j.pf5M1:1k.pf5M1:1l.pf5M1:1m.pf5M1:1n.pf5M1:1o.pf5M1:1p.pf5M1:1h.1g.pf5M1:",
   "1h.1h.pf5M1:1h.1i.pf5M1:1h.1j.pf5M1:1h.1k.pf5M1:1h.1l.pf5M1:1h.1m.pf5M1:1h.1n.pf5M1:1h.1o.pf5M",
   "1:1h.1p.pf5M1:1i.1g.pf5M1:1i.1h.pf5M1:1i.1i.pf5M1:1i.1j.pf5M1:1i.1k.pf5M1:1i.1l.pf5M1:1i.1m.pf",
   "5M1:1i.1n.pf5M1:1i.1o.pf5M1:1i.1p.pf5M1:1j.1g.pf5M1:1j.1h.pf5M1:37.31.3cMs4dV3X1nV9XasVkX1:19i",
   "1M1V1:19i3M1V1:19i5M1V1:19i7M1V1:19i9M1V1:19ibM1V1:19idM1V1:19ifM1V1:19ihM1V1:19ijM1V1:19ilM1V",
   "1:19inM1V1:19ipM1V1:19irM1V1:19itM1V1:19ivM1V1:19j1M1V1:19j3M1V1:19j5M1V1:19j7M1V1:19j9M1V1:19",
   "jbM1V1:19jdMjV1:19k1M1V1:19k3M1V1:19k5M1V1:19k7M1V1:19k9M1V1:19kbM1V1:19kdM1V1:19kfM1V1:19khM1",
   "V1:19kjM1V1:19klM1V1:19knM1V1:19kpM1V1:19krM1V1:12aM1:12cM2qV8X12V1:19p3M1V1:19p5M1V1:19p7M1V1",
   ":19p9M1V1:19pbM1V1:19pdM1V1:19pfM3V1:19pjM1V1:19plM1V1:19pnM1V1:19ppM1V1:19prM1V1:19ptM1V1:19p",
   "vM1V1:19q1M1V1:19q3M1V1:19q5M1V1:19q7M1V1:19q9M1V1:19qbM1V1:19qdM1V1:19qfM1V1:19qhM1V1:19qjM1V",
   "1:19qlM1V1:19qnM1V1:19qpM1V1:19qrM1V1:19qtM1V1:19qvM1V1:19r1M1V1:19r3M1V1:19r5M1V1:19r7M1V1:19",
   "r9M1V1:19rbM1V1:19rdM1V1:19rfM1V1:19rfM8V1:19rqM1V1:19rsM1V1:7bpM1:19rvM1V1:19s1M1V1:19s3M1V1:",
   "19s5M1V1:19s7M4V1:19scM1V1:j5M2V1:19shM1V1:19sjM3V1:19snM1V1:19spM1V1:19srM1V1:19stM1V1:19svM1",
   "V1:19t1M1V1:19t3M1V1:19t5M1V1:19t7M1V1:19t9M1V1:j6M1:isM1:j1M1:jcM1:jaM1V1:kuM1:k7M1:ktM1:1aqj",
   "M1:19tlM1V1:19tnM1V1:19tpM1V1:19trM1V1:19ttM1V1:19tvM1V1:19u1M1V1:19u3M1V1:19skM1:k2M1:7ceM1:1",
   "9u8M1V1:19uaM1V5X1:19uhM1V1X1V1X1V1:19unM1V1:19upM1VoX1:33M1:36M1:3hM1:19vmM2V1:97M1:ajM1jV3Xa",
   "V6X1oV8X26V8XcV6X3kVbXuV3X2eV1XbV4X11V1X1nV9XeV2XaV2X37VoXsVaX6V2X6V2X6V9X7V1X7V1X1cV1:19p7M1:",
   "1apnM1:jbM1:1aqiM9V1:kdM2V4X1:4t0M1:4t1M1:4t2M1:4t3M1:4t4M1:4t5M1:4t6M1:4t7M1:4t8M1:4t9M1:4taM",
   "1:4tbM1:4tcM1:4tdM1:4teM1:4tfM1:4tgM1:4thM1:4tiM1:4tjM1:4tkM1:4tlM1:4tmM1:4tnM1:4toM1:4tpM1:4t",
   "qM1:4trM1:4tsM1:4ttM1:4tuM1:4tvM1:4u0M1:4u1M1:4u2M1:4u3M1:4u4M1:4u5M1:4u6M1:4u7M1:4u8M1:4u9M1:",
   "4uaM1:4ubM1:4ucM1:4udM1:4ueM1:4ufM1:4ugM1:4uhM1:4uiM1:4ujM1:4ukM1:4ulM1:4umM1:4unM1:4uoM1:4upM",
   "1:4uqM1:4urM1:4usM1:4utM1:4uuM1:4uvM1:4v0M1:4v1M1:4v2M1:4v3M1:4v4M1:4v5M1:4v6M1:4v7M1:4v8M1:4v",
   "9M1:4vaM1:4vbM1:4vcM1:4vdM1:4veM1:4vfM1eV2XaV6Xat4VcXnV4X1hV884X1:1328M1:pnkM1:13maM1:1368M1:r",
   "mhM1:jhiM1:kv5M2:17ssM1:mahM1:14ehM1:lc7M1:ma8M1:ofmM1:tj9M1:vs5M1:11hvM1:11tqM1:127oM1:144fM1",
   ":qg2M1:r8rM1:s6pM1:suuM1:111tM1:14baM1:16fhM1:jk2M1:krlM1:qo4M1:sgrM1:11hdM1:17guM1:nagM1:rvbM",
   "1:11edM1:12b4M1:om9M1:10eoM1:120vM1:nmaM1:ponM1:rbaM1:snsM1:146eM1:js6M1:kdnM1:kmuM1:p64M1:qmj",
   "M1:sggM1:tn7M1:1001M1:11g6M1:11isM1:13ffM1:15piM1:16rfM1:17fqM1:u4cM1:ubvM1:vd0M1:10u9M1:14o4M",
   "1:17jvM1:12mmM1:m6vM1:no4M1:v30M1:103uM1:sj2M1:u6aM1:1362M1:15nnM1:m6oM1:n32M1:qgjM1:reqM1:rof",
   "M1:v9fM1:vhnM1:15ibM1:kmiM1:104bM1:kesM1:kecM1:ugsM1:vduM1:10vhM1:15jlM1:12s0M1:omfM1:qg2M1:12",
   "nuM1:jhpM1:mv7M1:o0iM1:ss7M1:tbgM1:konM1:u7rM1:jtvM1:nt9M1:jgdM1:r6cM1:pboM1:v92M1:ku3M1:m2uM1",
   ":to1M1:1129M1:12laM1:qtqM1:13tgM1:r48M1:onuM1:10n5M1:ot0M1:tb5M1:jleM1:kb9M1:ke9M1:q41M1:v77M1",
   ":10jfM1:12miM1:14efM1:knlM1:l22M1:mbjM1:nncM1:pe5M1:rvuM1:u9aM1:15ddM1:16jaM1:17knM1:17meM1:kk",
   "rM1:pm6M1:qrnM1:13r2M1:njkM1:ocgM1:og0M1:p4qM1:rp3M1:sa9M1:t49M1:ueaM1:vfkM1:103fM1:13p6M1:117",
   "eM1:1413M1:14qaM1:kgnM1:kl3M1:l5tM1:s68M1:1262M1:12laM1:nm9M1:nvlM1:orrM1:qteM1:v1uM1:srlM1:jn",
   "4M1:lnpM1:mv7M1:ndqM1:o0sM1:stiM1:t39M1:vsqM1:1026M1:14hkM1:15nmM1:15q8M1:160oM1:jsbM1:udeM1:1",
   "4dkM1:15loM1:o71M1:jk6M1:k6qM1:mveM1:n1vM1:pcpM1:qg2M1:seeM1:ti2M1:117sM1:143sM1:17sdM1:pk8M1:",
   "15heM1:kk9M1:prrM1:pvjM1:ra1M1:rksM1:t09M1:tapM1:u3bM1:v8gM1:162uM1:kbdM1:oheM1:15joM1:k1bM1:n",
   "8pM1:rfaM1:13paM1:nsbM1:oa4M1:q0nM1:ss7M1:15k6M1:kh9M1:l0fM1:n35M1:pgjM1:pqeM1:q58M1:r75M1:t06",
   "M1:tf2M1:vrpM1:126fM1:1271M1:14ecM1:15n2M1:kpvM1:rlqM1:l0tM1:segM1:t4oM1:11fqM1:15l3M1:172nM1:",
   "17kvM1:psnM1:rebM1:10f8M1:umbM1:up0M1:v4iM1:sm0M1:s4pM1:12qoM1:jm0M1:10pmM1:khqM1:kg7M1:nl6M1:",
   "omjM1:v6mM1:ms5M1:r8uM1:plkM1:13prM1:122cM1:15idM1:12cbM1:nmjM1:ka0M1:le0M2V1:m2qM1V1:pjkM2V1:",
   "keuM1:spaM1:tmaM1:u9sM1:uauM1:ub5M1:ucfM1:15qmM1:v5uM1:vttM1V1:11giM1V1:12noM2V1:141oM1:147tM3",
   "V1:167fM1:167sM1:1698M1:17dkM1:146uM1:15lnM1:jteM1:k77M1:kadM1:km9M1:kn4M1:kqhM1:lctM1:lg6M1:l",
   "j8M1:m20M1:m58M1:n34M1:n3eM1:o4kM1:ob8M1:oceM1:ofiM1:pafM1:pf2M1:pkhM1:q45M1:rbnM1:rgqM1:rp2M1",
   ":sbeM1:shbM1:t12M1:u4hM1:u9uM1:ua9M1:ua8M1:uagM1:uamM1:uatM1:ucdM1:uceM1:ui0M1:uk1M1:uu0M1:vfk",
   "M1:vg9M1:vi1M1:vriM1:1005M1:10fdM2:10jpM1:112nM1:128gM1:12cmM1:12o1M1:12ppM1:136jM1:1388M1:13t",
   "mM1:141oM1:15n3M1:15vvM1:161rM1:o3lM1:4gneM1:10goM2X1:jh6M1:kdlM1:kb8M1:js0M1:ka5M1:kc0M1:km7M",
   "1:knqM1:lctM1:lalM1:lcpM1:lf2M1:m2qM1:m5jM1:ma4M1:makM1:mj2M1:mp8M1:nmiM1:nmpM1:nr9M1:ntdM1:o6",
   "oM1:oaeM1:o88M1:oceM1:ob0M1:ofiM1:ohkM1:ou4M1:p0sM1:p2iM1:pamM1:pjkM1:ponM1:porM1:pqmM1:qrpM1:",
   "qtqM1:ra1M1:rmrM1:rmbM1:rp2M1:s0uM1:sbeM1:tt7M1:shlM1:slfM1:spaM1:t3hM1:t86M1:t9rM1:tgtM1:tgvM",
   "1:tmaM1:tmrM1:tnkM1:tqaM1:tq0M1:u6cM1:ulhM1:uu0M1:v3rM1:varM1:vfkM1:vpuM1:1005M1:10qiM1:10vfM1",
   ":11rpM1:12a1M1:12c6M1:12cmM1:12lvM1:12noM1:12mbM1:12o1M1:12nuM1:12ndM1:12ppM1:12saM1:1388M1:13",
   "poM1:143iM1:14cpM1:14jmM1:15jsM1:15n3M1:15qmM1:15urM1:15vvM1:160bM1:161rM1:16oiM1:17ssM1:4a2aM",
   "1:4a24M1:4culM1:estM1:g0oM1:g1pM1:4ki9M1:4n6gM1:4vmjM1:17q3M1:17seM16X1:36.36M1:36.39M1:36.3cM",
   "1:36.36.39M1:36.36.3cM2:3j.3kMcX1:1bk.1bmM1:1bk.1b5M1:1bk.1bbM1:1bu.1bmM1:1bk.1bdM5X1:1ep.1dkM",
   "1V1:1fi.1dnM1:1f2M1:1egM1:1ejM1:1ekM1:1erM1:1esM1:1etM1:1f8M1:1faM1:1bM1:1f9.1e1M1:1f9.1e2M1:1",
   "f9.1ds.1e1M1:1f9.1ds.1e2M1:1eg.1dnM1:1eg.1doM1:1eg.1dsM1:1eh.1dsM1:1ei.1dsM1:1ej.1dsM1:1ek.1ds",
   "M1:1el.1dsM1:1em.1dsM1X1:1eo.1dsM1:1ep.1dsM1:1eq.1dsM1:1er.1dsM1:1es.1dsM1X1:1eu.1dsM1X1:1f0.1",
   "dsM1:1f1.1dsM1X1:1f3.1dsM1:1f4.1dsM1X1:1f6.1dsM1:1f7.1dsM1:1f8.1dsM1:1f9.1dsM1:1fa.1dsM1:1el.1",
   "dpM1:1eh.1dvM1:1er.1dvM1:1f4.1dvM1:1eg.1esM2:1jhM4:1jrM4:1juM4:1k0M4:1jqM4:1jvM4:1jpM4:1l4M4:1",
   "l6M4:1k4M4:1k3M4:1k6M4:1k7M2:1kdM2:1kcM2:1keM2:1k8M2:1koM2:1khM4:1l9M4:1lfM4:1ljM4:1lhM2:1lqM4",
   ":1lrM2:1m0M4:1m1M4:1luM2:1miM2:1mjMhVgX4:1ldM2:1m7M2:1m6M2:1m8M1:1m7.1jkM2:1mbM2:1m5M2:1m9M4:1",
   "mgM2:1i9M2:1h6.1h7M2:1h6.1mlM2:1h6.1i8M2:1h6.1m7M2:1h6.1m6M2:1h6.1m8M3:1h6.1mgM3:1h6.1i9M4:1mc",
   "M1:1h6.1hcM1:1h6.1hdM1:1h6.1i5M1:1h6.1i9M1:1h6.1iaM1:1h8.1hcM1:1h8.1hdM1:1h8.1heM1:1h8.1i5M1:1",
   "h8.1i9M1:1h8.1iaM1:1ha.1hcM1:1ha.1hdM1:1ha.1heM1:1ha.1i5M1:1ha.1i9M1:1ha.1iaM1:1hb.1hcM1:1hb.1",
   "i5M1:1hb.1i9M1:1hb.1iaM1:1hc.1hdM1:1hc.1i5M1:1hd.1hcM1:1hd.1i5M1:1he.1hcM1:1he.1hdM1:1he.1i5M1",
   ":1hj.1hcM1:1hj.1hdM1:1hj.1heM1:1hj.1i5M1:1hl.1hdM1:1hl.1i5M1:1hm.1hcM1:1hm.1hdM1:1hm.1heM1:1hm",
   ".1i5M1:1hn.1hdM1:1hn.1i5M1:1ho.1i5M1:1hp.1hcM1:1hp.1i5M1:1hq.1hcM1:1hq.1i5M1:1i1.1hcM1:1i1.1hd",
   "M1:1i1.1heM1:1i1.1i5M1:1i1.1i9M1:1i1.1iaM1:1i2.1hdM1:1i2.1i5M1:1i2.1i9M1:1i2.1iaM1:1i3.1h7M1:1",
   "i3.1hcM1:1i3.1hdM1:1i3.1heM1:1i3.1i4M1:1i3.1i5M1:1i3.1i9M1:1i3.1iaM1:1i4.1hcM1:1i4.1hdM1:1i4.1",
   "heM1:1i4.1i5M1:1i4.1i9M1:1i4.1iaM1:1i5.1hcM1:1i5.1hdM1:1i5.1heM1:1i5.1i5M1:1i5.1i9M1:1i5.1iaM1",
   ":1i6.1hcM1:1i6.1hdM1:1i6.1heM1:1i6.1i5M1:1i6.1i9M1:1i6.1iaM1:1i7.1hcM1:1i7.1i5M1:1i7.1i9M1:1i7",
   ".1iaM1:1ia.1hcM1:1ia.1hdM1:1ia.1heM1:1ia.1i5M1:1ia.1i9M1:1ia.1iaM1:1hg.1jgM1:1hh.1jgM1:1i9.1jg",
   "M1:10.1ic.1ihM1:10.1id.1ihM1:10.1ie.1ihM1:10.1if.1ihM1:10.1ig.1ihM1:10.1ih.1jgM1:1h6.1hhM1:1h6",
   ".1hiM1:1h6.1i5M1:1h6.1i6M1:1h6.1i9M1:1h6.1iaM1:1h8.1hhM1:1h8.1hiM1:1h8.1i5M1:1h8.1i6M1:1h8.1i9",
   "M1:1h8.1iaM1:1ha.1hhM1:1ha.1hiM1:1ha.1i5M1:1ha.1i6M1:1ha.1i9M1:1ha.1iaM1:1hb.1hhM1:1hb.1hiM1:1",
   "hb.1i5M1:1hb.1i6M1:1hb.1i9M1:1hb.1iaM1:1i1.1i9M1:1i1.1iaM1:1i2.1i9M1:1i2.1iaM1:1i3.1h7M1:1i3.1",
   "i4M1:1i3.1i5M1:1i3.1i9M1:1i3.1iaM1:1i4.1i5M1:1i4.1i9M1:1i4.1iaM1:1i5.1h7M1:1i5.1i5M1:1i6.1hhM1",
   ":1i6.1hiM1:1i6.1i5M1:1i6.1i6M1:1i6.1i9M1:1i6.1iaM1:1i9.1jgM1:1ia.1hhM1:1ia.1hiM1:1ia.1i5M1:1ia",
   ".1i6M1:1ia.1i9M1:1ia.1iaM1:1h6.1hcM1:1h6.1hdM1:1h6.1heM1:1h6.1i5M1:1h6.1i7M1:1h8.1hcM1:1h8.1hd",
   "M1:1h8.1heM1:1h8.1i5M1:1h8.1i7M1:1ha.1hcM1:1ha.1hdM1:1ha.1heM1:1ha.1i5M1:1ha.1i7M1:1hb.1i5M1:1",
   "hc.1hdM1:1hc.1i5M1:1hd.1hcM1:1hd.1i5M1:1he.1hcM1:1he.1i5M1:1hj.1hcM1:1hj.1hdM1:1hj.1heM1:1hj.1",
   "i5M1:1hl.1hdM1:1hl.1heM1:1hl.1i5M1:1hm.1hcM1:1hm.1hdM1:1hm.1heM1:1hm.1i5M1:1hn.1hdM1:1ho.1i5M1",
   ":1hp.1hcM1:1hp.1i5M1:1hq.1hcM1:1hq.1i5M1:1i1.1hcM1:1i1.1hdM1:1i1.1heM1:1i1.1i5M1:1i2.1hdM1:1i2",
   ".1i5M1:1i3.1hcM1:1i3.1hdM1:1i3.1heM1:1i3.1i4M1:1i3.1i5M1:1i4.1hcM1:1i4.1hdM1:1i4.1heM1:1i4.1i5",
   "M1:1i4.1i7M1:1i5.1hcM1:1i5.1hdM1:1i5.1heM1:1i5.1i5M1:1i6.1hcM1:1i6.1hdM1:1i6.1heM1:1i6.1i5M1:1",
   "i6.1i7M1:1i7.1hcM1:1i7.1i5M1:1i7.1jgM1:1ia.1hcM1:1ia.1hdM1:1ia.1heM1:1ia.1i5M1:1ia.1i7M1:1h6.1",
   "i5M1:1h6.1i7M1:1h8.1i5M1:1h8.1i7M1:1ha.1i5M1:1ha.1i7M1:1hb.1i5M1:1hb.1i7M1:1hj.1i5M1:1hj.1i7M1",
   ":1hk.1i5M1:1hk.1i7M1:1i3.1i4M1:1i3.1i5M1:1i4.1i5M1:1i6.1i5M1:1i6.1i7M1:1ia.1i5M1:1ia.1i7M1:1i0",
   ".1ie.1ihM1:1i0.1if.1ihM1:1i0.1ig.1ihM1:1hn.1i9M1:1hn.1iaM1:1hp.1i9M1:1hp.1iaM1:1hq.1i9M1:1hq.1",
   "iaM1:1hj.1i9M1:1hj.1iaM1:1hk.1i9M1:1hk.1iaM1:1hd.1i9M1:1hd.1iaM1:1hc.1i9M1:1hc.1iaM1:1he.1i9M1",
   ":1he.1iaM1:1hl.1i9M1:1hl.1iaM1:1hm.1i9M1:1hm.1iaM1:1hk.1hcM1:1hk.1hdM1:1hk.1heM1:1hk.1i5M1:1hk",
   ".1hhM1:1hj.1hhM1:1hl.1hhM1:1hm.1hhM1:1hn.1i9M1:1hn.1iaM1:1hp.1i9M1:1hp.1iaM1:1hq.1i9M1:1hq.1ia",
   "M1:1hj.1i9M1:1hj.1iaM1:1hk.1i9M1:1hk.1iaM1:1hd.1i9M1:1hd.1iaM1:1hc.1i9M1:1hc.1iaM1:1he.1i9M1:1",
   "he.1iaM1:1hl.1i9M1:1hl.1iaM1:1hm.1i9M1:1hm.1iaM1:1hk.1hcM1:1hk.1hdM1:1hk.1heM1:1hk.1i5M1:1hk.1",
   "hhM1:1hj.1hhM1:1hl.1hhM1:1hm.1hhM1:1hk.1hcM1:1hk.1hdM1:1hk.1heM1:1hk.1i5M1:1hj.1i7M1:1hk.1i7M1",
   ":1hn.1i5M1:1hj.1hcM1:1hj.1hdM1:1hj.1heM1:1hk.1hcM1:1hk.1hdM1:1hk.1heM1:1hn.1i5M1:1ho.1i5M2:1h7",
   ".1ibMiV1:1ha.1hc.1i5M2:1ha.1hd.1hcM1:1ha.1hd.1i5M1:1ha.1he.1i5M1:1ha.1i5.1hcM1:1ha.1i5.1hdM1:1",
   "ha.1i5.1heM2:1hc.1i5.1hdM1:1hd.1i5.1iaM1:1hd.1i5.1i9M1:1hj.1hd.1hcM1:1hj.1hc.1hdM1:1hj.1hc.1i9",
   "M2:1hj.1i5.1hdM1:1hj.1i5.1hcM2:1hj.1i5.1i5M2:1hl.1hd.1hdM1:1hl.1i5.1i5M2:1hk.1hd.1i5M1:1hk.1hc",
   ".1iaM2:1hk.1i5.1heM2:1hk.1i5.1i5M1:1hm.1hd.1i9M2:1hm.1he.1i5M2:1hn.1i5.1hdM1:1hn.1i5.1i5M1:1hn",
   ".1i5.1iaM1:1hp.1hc.1i5M2:1hp.1i5.1i5M1:1hp.1i5.1i9M1:1hq.1i5.1i5M1:1hq.1i5.1iaM1:1hq.1i5.1i9M2",
   ":1i1.1he.1i5M1:1i2.1i5.1hdM1:1i2.1i5.1i5M1:1i4.1hd.1i5M1:1i4.1hd.1iaM1:1i4.1hd.1i9M2:1i4.1hc.1",
   "hcM2:1i4.1he.1i5M2:1i4.1i5.1hdM1:1i5.1hd.1hcM1:1i5.1hd.1i5M1:1i5.1hd.1iaM1:1i5.1hc.1hdM1:1i5.1",
   "hc.1i5M1:1i5.1he.1hcM1:1i5.1he.1i5M2X1:1i5.1hc.1heM1:1i7.1i5.1hcM1:1i7.1i5.1i5M1:1i6.1hd.1i5M1",
   ":1i6.1hd.1i9M2:1i6.1hc.1i5M1:1i6.1hc.1i9M1:1i6.1i5.1iaM1:1i6.1i5.1i9M2:1ia.1i5.1i5M1:1h8.1he.1",
   "iaM1:1ha.1hc.1iaM1:1ha.1hc.1i9M1:1ha.1he.1iaM1:1ha.1he.1i9M1:1ha.1i5.1iaM1:1ha.1i5.1i9M1:1hc.1",
   "i5.1iaM1:1hc.1hd.1i9M1:1hc.1i5.1i9M1:1hj.1he.1i9M1:1hl.1hd.1iaM1:1hk.1hd.1iaM1:1hm.1hd.1iaM1:1",
   "i4.1hc.1iaM1:1i4.1i5.1iaM1:1ia.1hd.1iaM1:1ia.1hc.1iaM1:1ia.1i5.1iaM1:1i5.1i5.1iaM1:1i2.1i5.1ia",
   "M1:1i6.1hd.1iaM1:1i2.1i5.1hdM1:1i4.1hd.1i5M1:1hp.1i5.1iaM1:1i3.1i5.1iaM1:1i6.1hc.1hdM1:1i5.1he",
   ".1iaM1:1i4.1hc.1i5M1:1i3.1i5.1i5M1:1i4.1hc.1i5M1:1i6.1hc.1hdM1:1hc.1hd.1iaM1:1hd.1hc.1iaM1:1i5",
   ".1hc.1iaM1:1i1.1i5.1iaM1:1h8.1hd.1iaM1:1i3.1i5.1i5M1:1hp.1hc.1i5M1:1hl.1i5.1i5M1:1hj.1he.1iaM1",
   ":1i6.1hc.1iaM7X1V10X1:1hl.1i4.1miM1:1i2.1i4.1miM1:1h7.1i4.1i4.1i7M1:1h7.1i3.1h8.1hhM1:1i5.1hd.",
   "1i5.1hfM1:1hl.1i4.1hp.1i5M1:1hh.1hj.1i8.1i4M1:1hp.1i4.1ia.1i7M1:1i8.1hj.1i4.1i5M1:1hl.1i4.1i9M",
   "1:1hl.1i4.1i9.10.1h7.1i4.1i4.1i7.10.1hp.1i4.1ia.1i7.10.1i8.1hj.1i4.1i5M1:1hc.1i4.10.1hc.1i4.1h",
   "7.1i4.1i7M1:1hh.1mc.1h7.1i4M3VgI1:1cM1:c01M1X1:1qM1:1rM1:11M1:1vM1:c0mM1:c0nM7XgV1X1:80kM1:80j",
   "M2:2vM1:18M1:19M1:3rM1:3tM1:c0kM1:c0lM1:c0gM1:c0hM1:c0aM1:c0bM1:c08M1:c09M1:c0cM1:c0dM1:c0eM1:",
   "c0fM2V1:2rM1:2tM4:10.o5M3:2vM1:1cM1:c01M2X1:1rM1:1qM1:1vM1:11M1:80kM1:18M1:19M1:3rM1:3tM1:c0kM",
   "1:c0lM1:13M1:16M1:1aM1:1bM1:1dM1:1sM1:1uM1:1tM1X1:2sM1:14M1:15M1:20M4X1:10.1ibM1:1i0.1ibM1:10.",
   "1icM1V1:10.1idM1X1:10.1ieM1:1i0.1ieM1:10.1ifM1:1i0.1ifM1:10.1igM1:1i0.1igM1:10.1ihM1:1i0.1ihM1",
   ":10.1iiM1:1i0.1iiM1:1h1M2:1h2M2:1h3M2:1h4M2:1h5M4:1h6M2:1h7M4:1h8M2:1h9M4:1haM4:1hbM4:1hcM4:1h",
   "dM4:1heM2:1hfM2:1hgM2:1hhM2:1hiM4:1hjM4:1hkM4:1hlM4:1hmM4:1hnM4:1hoM4:1hpM4:1hqM4:1i1M4:1i2M4:",
   "1i3M4:1i4M4:1i5M4:1i6M4:1i7M2:1i8M2:1i9M4:1iaM2:1i4.1h2M2:1i4.1h3M2:1i4.1h5M2:1i4.1h7M2X1I1X1:",
   "11M1:12M1:13M1:14M1:15M1:16M1:17M1:18M1:19M1:1aM1:1bM1:1cM1:1dM1:1eM1:1fM1:1gM1:1hM1:1iM1:1jM1",
   ":1kM1:1lM1:1mM1:1nM1:1oM1:1pM1:1qM1:1rM1:1sM1:1tM1:1uM1:1vM1:20M1:31M1:32M1:33M1:34M1:35M1:36M",
   "1:37M1:38M1:39M1:3aM1:3bM1:3cM1:3dM1:3eM1:3fM1:3gM1:3hM1:3iM1:3jM1:3kM1:3lM1:3mM1:3nM1:3oM1:3p",
   "M1:3qM1:2rM1:2sM1:2tM1:2uM1:2vM1:30M1:31M1:32M1:33M1:34M1:35M1:36M1:37M1:38M1:39M1:3aM1:3bM1:3",
   "cM1:3dM1:3eM1:3fM1:3gM1:3hM1:3iM1:3jM1:3kM1:3lM1:3mM1:3nM1:3oM1:3pM1:3qM1:3rM1:3sM1:3tM1:3uM1:",
   "ac5M1:ac6M1:1eM1:c0cM1:c0dM1:c01M1:c7rM1:c7iM1:c51M1:c53M1:c55M1:c57M1:c59M1:c73M1:c75M1:c77M1",
   ":c63M1:c7sM1:c52M1:c54M1:c56M1:c58M1:c5aM1:c5bM1:c5dM1:c5fM1:c5hM1:c5jM1:c5lM1:c5nM1:c5pM1:c5r",
   "M1:c5tM1:c5vM1:c61M1:c64M1:c66M1:c68M1:c6aM1:c6bM1:c6cM1:c6dM1:c6eM1:c6fM1:c6iM1:c6lM1:c6oM1:c",
   "6rM1:c6uM1:c6vM1:c70M1:c71M1:c72M1:c74M1:c76M1:c78M1:c79M1:c7aM1:c7bM1:c7cM1:c7dM1:c7fM1:c7jM1",
   ":c4pM1:c4qM1X1:480M1:481M1:4daM1:482M1:4dcM1:4ddM1:483M1:484M1:485M1:4dgM1:4dhM1:4diM1:4djM1:4",
   "dkM1:4dlM1:48qM1:486M1:487M1:488M1:491M1:489M1:48aM1:48bM1:48cM1:48dM1:48eM1:48fM1:48gM1:48hM1",
   ":48iM3X1:4b1M1:4b2M1:4b3M1:4b4M1:4b5M1:4b6M2X1:4b7M1:4b8M1:4b9M1:4baM1:4bbM1:4bcM2X1:4bdM1:4be",
   "M1:4bfM1:4bgM1:4bhM1:4biM2X1:4bjM1:4bkM1:4blM3X1:52M1:53M1:5cM1:10.o4M1:56M1:55M1:859M1X1:982M",
   "1:8cgM1:8chM1:8ciM1:8cjM1:9d0M1:9ebMhXcV1XqV1XjV1X2V1XfV2XeV12X3rV5X3V4X1dV3X2oV1XdV3X1V1fX1eV",
   "42XtV3X1hVfXsV4X14V9XuV5X1bV5XuV1X15V4XeV1aX1:2118M1:2119M1:211aM1:211bM1:211cM1:211dM1:211eM1",
   ":211fM1:211gM1:211hM1:211iM1:211jM1:211kM1:211lM1:211mM1:211nM1:211oM1:211pM1:211qM1:211rM1:21",
   "1sM1:211tM1:211uM1:211vM1:2120M1:2121M1:2122M1:2123M1:2124M1:2125M1:2126M1:2127M1:2128M1:2129M",
   "1:212aM1:212bM1:212cM1:212dM1:212eM1:212fM3mV2XaV6X1:216oM1:216pM1:216qM1:216rM1:216sM1:216tM1",
   ":216uM1:216vM1:2170M1:2171M1:2172M1:2173M1:2174M1:2175M1:2176M1:2177M1:2178M1:2179M1:217aM1:21",
   "7bM1:217cM1:217dM1:217eM1:217fM1:217gM1:217hM1:217iM1:217jM1:217kM1:217lM1:217mM1:217nM1:217oM",
   "1:217pM1:217qM1:217rM4X14V4X18V8X1kVbX1V1:21cnM1:21coM1:21cpM1:21cqM1:21crM1:21csM1:21ctM1:21c",
   "uM1:21cvM1:21d0M1:21d1M1X1:21d3M1:21d4M1:21d5M1:21d6M1:21d7M1:21d8M1:21d9M1:21daM1:21dbM1:21dc",
   "M1:21ddM1:21deM1:21dfM1:21dgM1:21dhM1X1:21djM1:21dkM1:21dlM1:21dmM1:21dnM1:21doM1:21dpM1X1:21d",
   "rM1:21dsM1XbV1XfV1X7V1X2V23X9nV9XmVaX8VoX1V1:mgM1:mhM1:76M1:kpM1:ijM1X1:l3M1:1ar6M1:l5M1:l4M1:",
   "imM1:inM1:7chM1:ioM1:iuM1:l9M1:j4M1:j2M1:j0M1:krM1:97M1:ksM1:j7M1:k4M1:laM1:lbM1:jcM1:3no4M1:1",
   "9seM1:jeM1:3no5M1:keM1:3no6M1:7oM1:jmM1:jnM1:3hM1:jqM1:3no8M1:jtM1:juM1:k0M1:l8M1:l6M1:1ar7M1:",
   "l7M1:k8M1:b3hM1X1:kfM1:l1M1:l2M1:koM1:e0M1:e1M1:e2M1:3noaM1:3nouM25X6V2X1V1X1cV1X2V3X1V2XnV1X2",
   "8V8X9V1gXjV1X2V5X11V3XrV5X1V20X1oV4XkV2X1iV1X2V5X8V1X3V1XtV2X3V4XaV7X9V7X20V10X17V4XcV9X1mV3Xt",
   "V2XrV5XqV7X4VcX7V2gX29V1nX1:2360M1:2361M1:2362M1:2363M1:2364M1:2365M1:2366M1:2367M1:2368M1:236",
   "9M1:236aM1:236bM1:236cM1:236dM1:236eM1:236fM1:236gM1:236hM1:236iM1:236jM1:236kM1:236lM1:236mM1",
   ":236nM1:236oM1:236pM1:236qM1:236rM1:236sM1:236tM1:236uM1:236vM1:2370M1:2371M1:2372M1:2373M1:23",
   "74M1:2375M1:2376M1:2377M1:2378M1:2379M1:237aM1:237bM1:237cM1:237dM1:237eM1:237fM1:237gM1:237hM",
   "1:237iMdX1jV7X1eV8XaV96XvV1X1aV1X3V2X2V2bX1bV8X1aVmXqV16XsVkXnV9X2eV4X14V9X1uV1X5VdXpV7XaV6X1l",
   "V1XiV8X17V9X30V1XkVbXiV1X1fV1uX7V1X1V1X4V1XfV1XbV6X1rV5XaV6X4V1X8V2X2V2XmV1X7V1X2V1X5V1XaV2X2V",
   "2X3V2X1V6X1V5X7V2X7V3X5V4bX2sV1X5VuX28V8XaV56X1mV2X16V12X25VbXaV6XdVjX1qV6XaV1mXrV2XfV4XnV5pX1",
   "sV34X1:2660M1:2661M1:2662M1:2663M1:2664M1:2665M1:2666M1:2667M1:2668M1:2669M1:266aM1:266bM1:266",
   "cM1:266dM1:266eM1:266fM1:266gM1:266hM1:266iM1:266jM1:266kM1:266lM1:266mM1:266nM1:266oM1:266pM1",
   ":266qM1:266rM1:266sM1:266tM1:266uM1:266vM1jVcX8V2X1V2X8V1X2V1XuV1X2V2XcV9XaV26X8V2X1eV2XbVrX28",
   "V8X2jVdX29V7XaV7mX9V1X1dV1XeVaXtV3X10V2XmV1XeV29X7V1X2V1X1cV3X1V1X2V1X9V8XaV6X6V1X2V1X15V1X2V1",
   "X6V7XaV9mXpV7XhV1X19V3XsV2mX1VfX1iVdXsrV36X3fV1X5VbX64V2icX33VdX11gVgXmV3taXi7V8dpXhpV7XvV1XaV",
   "4X2hV1XaV6XuV2X6VaX26VaXaV1X7V1XlV5XjVlgX1:2rj0M1:2rj1M1:2rj2M1:2rj3M1:2rj4M1:2rj5M1:2rj6M1:2r",
   "j7M1:2rj8M1:2rj9M1:2rjaM1:2rjbM1:2rjcM1:2rjdM1:2rjeM1:2rjfM1:2rjgM1:2rjhM1:2rjiM1:2rjjM1:2rjkM",
   "1:2rjlM1:2rjmM1:2rjnM1:2rjoM1:2rjpM1:2rjqM1:2rjrM1:2rjsM1:2rjtM1:2rjuM1:2rjvM1rV35X2bV4X1pV7Xh",
   "V20X5VbX2VeX5voV8X16mV1aX9V8n7X4V1X7V1X2V1X93VfX1VtX3V2X1VeX4V8XccV284X3bV5XdV3X9V7XaV2X4V4I4i",
   "sX1eV2XnV9X3kV1sX7mVaX17V2X1lV1:3kan.3kb5M1:3kao.3kb5M1:3kao.3kb5.3kbeM1:3kao.3kb5.3kbfM1:3kao",
   ".3kb5.3kbgM1:3kao.3kb5.3kbhM1:3kao.3kb5.3kbiMeV8X20V1:3kdp.3kb5M1:3kdq.3kb5M1:3kdp.3kb5.3kbeM1",
   ":3kdq.3kb5.3kbeM1:3kdp.3kb5.3kbfM1:3kdq.3kb5.3kbfM1aVlX26V3qXkVcXkVcX2nV9XpV47X1:31M1:32M1:33M",
   "1:34M1:35M1:36M1:37M1:38M1:39M1:3aM1:3bM1:3cM1:3dM1:3eM1:3fM1:3gM1:3hM1:3iM1:3jM1:3kM1:3lM1:3m",
   "M1:3nM1:3oM1:3pM1:3qM1:31M1:32M1:33M1:34M1:35M1:36M1:37M1:38M1:39M1:3aM1:3bM1:3cM1:3dM1:3eM1:3",
   "fM1:3gM1:3hM1:3iM1:3jM1:3kM1:3lM1:3mM1:3nM1:3oM1:3pM1:3qM1:31M1:32M1:33M1:34M1:35M1:36M1:37M1:",
   "38M1:39M1:3aM1:3bM1:3cM1:3dM1:3eM1:3fM1:3gM1:3hM1:3iM1:3jM1:3kM1:3lM1:3mM1:3nM1:3oM1:3pM1:3qM1",
   ":31M1:32M1:33M1:34M1:35M1:36M1:37M1X1:39M1:3aM1:3bM1:3cM1:3dM1:3eM1:3fM1:3gM1:3hM1:3iM1:3jM1:3",
   "kM1:3lM1:3mM1:3nM1:3oM1:3pM1:3qM1:31M1:32M1:33M1:34M1:35M1:36M1:37M1:38M1:39M1:3aM1:3bM1:3cM1:",
   "3dM1:3eM1:3fM1:3gM1:3hM1:3iM1:3jM1:3kM1:3lM1:3mM1:3nM1:3oM1:3pM1:3qM1:31M1:32M1:33M1:34M1:35M1",
   ":36M1:37M1:38M1:39M1:3aM1:3bM1:3cM1:3dM1:3eM1:3fM1:3gM1:3hM1:3iM1:3jM1:3kM1:3lM1:3mM1:3nM1:3oM",
   "1:3pM1:3qM1:31M1X1:33M1:34M2X1:37M2X1:3aM1:3bM2X1:3eM1:3fM1:3gM1:3hM1X1:3jM1:3kM1:3lM1:3mM1:3n",
   "M1:3oM1:3pM1:3qM1:31M1:32M1:33M1:34M1X1:36M1X1:38M1:39M1:3aM1:3bM1:3cM1:3dM1:3eM1X1:3gM1:3hM1:",
   "3iM1:3jM1:3kM1:3lM1:3mM1:3nM1:3oM1:3pM1:3qM1:31M1:32M1:33M1:34M1:35M1:36M1:37M1:38M1:39M1:3aM1",
   ":3bM1:3cM1:3dM1:3eM1:3fM1:3gM1:3hM1:3iM1:3jM1:3kM1:3lM1:3mM1:3nM1:3oM1:3pM1:3qM1:31M1:32M1:33M",
   "1:34M1:35M1:36M1:37M1:38M1:39M1:3aM1:3bM1:3cM1:3dM1:3eM1:3fM1:3gM1:3hM1:3iM1:3jM1:3kM1:3lM1:3m",
   "M1:3nM1:3oM1:3pM1:3qM1:31M1:32M1X1:34M1:35M1:36M1:37M2X1:3aM1:3bM1:3cM1:3dM1:3eM1:3fM1:3gM1:3h",
   "M1X1:3jM1:3kM1:3lM1:3mM1:3nM1:3oM1:3pM1X1:31M1:32M1:33M1:34M1:35M1:36M1:37M1:38M1:39M1:3aM1:3b",
   "M1:3cM1:3dM1:3eM1:3fM1:3gM1:3hM1:3iM1:3jM1:3kM1:3lM1:3mM1:3nM1:3oM1:3pM1:3qM1:31M1:32M1X1:34M1",
   ":35M1:36M1:37M1X1:39M1:3aM1:3bM1:3cM1:3dM1X1:3fM3X1:3jM1:3kM1:3lM1:3mM1:3nM1:3oM1:3pM1X1:31M1:",
   "32M1:33M1:34M1:35M1:36M1:37M1:38M1:39M1:3aM1:3bM1:3cM1:3dM1:3eM1:3fM1:3gM1:3hM1:3iM1:3jM1:3kM1",
   ":3lM1:3mM1:3nM1:3oM1:3pM1:3qM1:31M1:32M1:33M1:34M1:35M1:36M1:37M1:38M1:39M1:3aM1:3bM1:3cM1:3dM",
   "1:3eM1:3fM1:3gM1:3hM1:3iM1:3jM1:3kM1:3lM1:3mM1:3nM1:3oM1:3pM1:3qM1:31M1:32M1:33M1:34M1:35M1:36",
   "M1:37M1:38M1:39M1:3aM1:3bM1:3cM1:3dM1:3eM1:3fM1:3gM1:3hM1:3iM1:3jM1:3kM1:3lM1:3mM1:3nM1:3oM1:3",
   "pM1:3qM1:31M1:32M1:33M1:34M1:35M1:36M1:37M1:38M1:39M1:3aM1:3bM1:3cM1:3dM1:3eM1:3fM1:3gM1:3hM1:",
   "3iM1:3jM1:3kM1:3lM1:3mM1:3nM1:3oM1:3pM1:3qM1:31M1:32M1:33M1:34M1:35M1:36M1:37M1:38M1:39M1:3aM1",
   ":3bM1:3cM1:3dM1:3eM1:3fM1:3gM1:3hM1:3iM1:3jM1:3kM1:3lM1:3mM1:3nM1:3oM1:3pM1:3qM1:31M1:32M1:33M",
   "1:34M1:35M1:36M1:37M1:38M1:39M1:3aM1:3bM1:3cM1:3dM1:3eM1:3fM1:3gM1:3hM1:3iM1:3jM1:3kM1:3lM1:3m",
   "M1:3nM1:3oM1:3pM1:3qM1:31M1:32M1:33M1:34M1:35M1:36M1:37M1:38M1:39M1:3aM1:3bM1:3cM1:3dM1:3eM1:3",
   "fM1:3gM1:3hM1:3iM1:3jM1:3kM1:3lM1:3mM1:3nM1:3oM1:3pM1:3qM1:31M1:32M1:33M1:34M1:35M1:36M1:37M1:",
   "38M1:39M1:3aM1:3bM1:3cM1:3dM1:3eM1:3fM1:3gM1:3hM1:3iM1:3jM1:3kM1:3lM1:3mM1:3nM1:3oM1:3pM1:3qM1",
   ":31M1:32M1:33M1:34M1:35M1:36M1:37M1:38M1:39M1:3aM1:3bM1:3cM1:3dM1:3eM1:3fM1:3gM1:3hM1:3iM1:3jM",
   "1:3kM1:3lM1:3mM1:3nM1:3oM1:3pM1:3qM1:31M1:32M1:33M1:34M1:35M1:36M1:37M1:38M1:39M1:3aM1:3bM1:3c",
   "M1:3dM1:3eM1:3fM1:3gM1:3hM1:3iM1:3jM1:3kM1:3lM1:3mM1:3nM1:3oM1:3pM1:3qM1:31M1:32M1:33M1:34M1:3",
   "5M1:36M1:37M1:38M1:39M1:3aM1:3bM1:3cM1:3dM1:3eM1:3fM1:3gM1:3hM1:3iM1:3jM1:3kM1:3lM1:3mM1:3nM1:",
   "3oM1:3pM1:3qM1:31M1:32M1:33M1:34M1:35M1:36M1:37M1:38M1:39M1:3aM1:3bM1:3cM1:3dM1:3eM1:3fM1:3gM1",
   ":3hM1:3iM1:3jM1:3kM1:3lM1:3mM1:3nM1:3oM1:3pM1:3qM1:31M1:32M1:33M1:34M1:35M1:36M1:37M1:38M1:39M",
   "1:3aM1:3bM1:3cM1:3dM1:3eM1:3fM1:3gM1:3hM1:3iM1:3jM1:3kM1:3lM1:3mM1:3nM1:3oM1:3pM1:3qM1:9hM1:hn",
   "M2X1:thM1:tiM1:tjM1:tkM1:tlM1:tmM1:tnM1:toM1:tpM1:tqM1:trM1:tsM1:ttM1:tuM1:tvM1:u0M1:u1M1:toM1",
   ":u3M1:u4M1:u5M1:u6M1:u7M1:u8M1:u9M1:8g7M1:thM1:tiM1:tjM1:tkM1:tlM1:tmM1:tnM1:toM1:tpM1:tqM1:tr",
   "M1:tsM1:ttM1:tuM1:tvM1:u0M1:u1M2:u3M1:u4M1:u5M1:u6M1:u7M1:u8M1:u9M1:8g2M1:tlM1:toM1:tqM1:u6M1:",
   "u1M1:u0M1:thM1:tiM1:tjM1:tkM1:tlM1:tmM1:tnM1:toM1:tpM1:tqM1:trM1:tsM1:ttM1:tuM1:tvM1:u0M1:u1M1",
   ":toM1:u3M1:u4M1:u5M1:u6M1:u7M1:u8M1:u9M1:8g7M1:thM1:tiM1:tjM1:tkM1:tlM1:tmM1:tnM1:toM1:tpM1:tq",
   "M1:trM1:tsM1:ttM1:tuM1:tvM1:u0M1:u1M2:u3M1:u4M1:u5M1:u6M1:u7M1:u8M1:u9M1:8g2M1:tlM1:toM1:tqM1:",
   "u6M1:u1M1:u0M1:thM1:tiM1:tjM1:tkM1:tlM1:tmM1:tnM1:toM1:tpM1:tqM1:trM1:tsM1:ttM1:tuM1:tvM1:u0M1",
   ":u1M1:toM1:u3M1:u4M1:u5M1:u6M1:u7M1:u8M1:u9M1:8g7M1:thM1:tiM1:tjM1:tkM1:tlM1:tmM1:tnM1:toM1:tp",
   "M1:tqM1:trM1:tsM1:ttM1:tuM1:tvM1:u0M1:u1M2:u3M1:u4M1:u5M1:u6M1:u7M1:u8M1:u9M1:8g2M1:tlM1:toM1:",
   "tqM1:u6M1:u1M1:u0M1:thM1:tiM1:tjM1:tkM1:tlM1:tmM1:tnM1:toM1:tpM1:tqM1:trM1:tsM1:ttM1:tuM1:tvM1",
   ":u0M1:u1M1:toM1:u3M1:u4M1:u5M1:u6M1:u7M1:u8M1:u9M1:8g7M1:thM1:tiM1:tjM1:tkM1:tlM1:tmM1:tnM1:to",
   "M1:tpM1:tqM1:trM1:tsM1:ttM1:tuM1:tvM1:u0M1:u1M2:u3M1:u4M1:u5M1:u6M1:u7M1:u8M1:u9M1:8g2M1:tlM1:",
   "toM1:tqM1:u6M1:u1M1:u0M1:thM1:tiM1:tjM1:tkM1:tlM1:tmM1:tnM1:toM1:tpM1:tqM1:trM1:tsM1:ttM1:tuM1",
   ":tvM1:u0M1:u1M1:toM1:u3M1:u4M1:u5M1:u6M1:u7M1:u8M1:u9M1:8g7M1:thM1:tiM1:tjM1:tkM1:tlM1:tmM1:tn",
   "M1:toM1:tpM1:tqM1:trM1:tsM1:ttM1:tuM1:tvM1:u0M1:u1M2:u3M1:u4M1:u5M1:u6M1:u7M1:u8M1:u9M1:8g2M1:",
   "tlM1:toM1:tqM1:u6M1:u1M1:u0M2:utM2X1:1gM1:1hM1:1iM1:1jM1:1kM1:1lM1:1mM1:1nM1:1oM1:1pM1:1gM1:1h",
   "M1:1iM1:1jM1:1kM1:1lM1:1mM1:1nM1:1oM1:1pM1:1gM1:1hM1:1iM1:1jM1:1kM1:1lM1:1mM1:1nM1:1oM1:1pM1:1",
   "gM1:1hM1:1iM1:1jM1:1kM1:1lM1:1mM1:1nM1:1oM1:1pM1:1gM1:1hM1:1iM1:1jM1:1kM1:1lM1:1mM1:1nM1:1oM1:",
   "1pMkcVfX5V1XfV12gXvV6X6V6lX7V1XhV2X7V1X2V1X5V5X1:11gM1:11hM1:11iM1:11jM1:11kM1:11lM1:11mM1:11n",
   "M1:11oM1:11qM1:11rM1:11sM1:11uM1:11vM1:120M1:121M1:122M1:123M1:124M1:125M1:126M1:127M1:128M1:1",
   "2bM1:12dM1:12eM1:19k9M1:16pM1:12mM1:12oM1:179M1:15fM1:16fM1:11gM1:11hM1:11iM1:11jM1:11kM1:11lM",
   "1:11mM1:11nM1:11oM1:11qM1:11rM1:11uM1:11vM1:121M1:123M1:124M1:125M1:126M1:127M1:128M1:12aM1:12",
   "bM1:14hM1:12mM1:12lM1:12vM1:15bM1:19ihM1:15hM11X1V3gX1dV3XeV2XaV4X2Va0XvVhX1qV5X1VegX1aVn6X7V1",
   "X4V1X2V1XfV1X65V2XgV19X1:3q92M1:3q93M1:3q94M1:3q95M1:3q96M1:3q97M1:3q98M1:3q99M1:3q9aM1:3q9bM1",
   ":3q9cM1:3q9dM1:3q9eM1:3q9fM1:3q9gM1:3q9hM1:3q9iM1:3q9jM1:3q9kM1:3q9lM1:3q9mM1:3q9nM1:3q9oM1:3q",
   "9pM1:3q9qM1:3q9rM1:3q9sM1:3q9tM1:3q9uM1:3q9vM1:3qa0M1:3qa1M1:3qa2M1:3qa3M1aV4XaV4X2VohX24V2cX1",
   "tV62X1:1h7M1:1h8M1:1hcM1:1hfM1X1:1i8M1:1hiM1:1hdM1:1hnM1:1iaM1:1i3M1:1i4M1:1i5M1:1i6M1:1hjM1:1",
   "hpM1:1i1M1:1hlM1:1i2M1:1hhM1:1hkM1:1haM1:1hbM1:1heM1:1hgM1:1hmM1:1hoM1:1hqM1:1jeM1:1lqM1:1l1M1",
   ":1jfM1X1:1h8M1:1hcM1X1:1i7M2X1:1hdM1X1:1iaM1:1i3M1:1i4M1:1i5M1:1i6M1:1hjM1:1hpM1:1i1M1:1hlM1:1",
   "i2M1X1:1hkM1:1haM1:1hbM1:1heM1X1:1hmM1X1:1hqM6X1:1hcM4X1:1hdM1X1:1iaM1X1:1i4M1X1:1i6M1:1hjM1:1",
   "hpM1X1:1hlM1:1i2M1X1:1hkM2X1:1heM1X1:1hmM1X1:1hqM1X1:1lqM1X1:1jfM1X1:1h8M1:1hcM1X1:1i7M2X1:1hd",
   "M1:1hnM1:1iaM1:1i3M1X1:1i5M1:1i6M1:1hjM1:1hpM1:1i1M1:1hlM1:1i2M1X1:1hkM1:1haM1:1hbM1:1heM1X1:1",
   "hmM1:1hoM1:1hqM1:1jeM1X1:1l1M1X1:1h7M1:1h8M1:1hcM1:1hfM1:1i7M1:1i8M1:1hiM1:1hdM1:1hnM1:1iaM1X1",
   ":1i4M1:1i5M1:1i6M1:1hjM1:1hpM1:1i1M1:1hlM1:1i2M1:1hhM1:1hkM1:1haM1:1hbM1:1heM1:1hgM1:1hmM1:1ho",
   "M1:1hqM5X1:1h8M1:1hcM1:1hfM1X1:1i8M1:1hiM1:1hdM1:1hnM1:1iaM1X1:1i4M1:1i5M1:1i6M1:1hjM1:1hpM1:1",
   "i1M1:1hlM1:1i2M1:1hhM1:1hkM1:1haM1:1hbM1:1heM1:1hgM1:1hmM1:1hoM1:1hqM1kX2V8eX1cV4X34VcXfV2XfV1",
   "XfV1X15VbX1:1g.1cM1:1h.1cM1:1i.1cM1:1j.1cM1:1k.1cM1:1l.1cM1:1m.1cM1:1n.1cM1:1o.1cM1:1p.1cM5V1:",
   "18.31.19M1:18.32.19M1:18.33.19M1:18.34.19M1:18.35.19M1:18.36.19M1:18.37.19M1:18.38.19M1:18.39.",
   "19M1:18.3a.19M1:18.3b.19M1:18.3c.19M1:18.3d.19M1:18.3e.19M1:18.3f.19M1:18.3g.19M1:18.3h.19M1:1",
   "8.3i.19M1:18.3j.19M1:18.3k.19M1:18.3l.19M1:18.3m.19M1:18.3n.19M1:18.3o.19M1:18.3p.19M1:18.3q.1",
   "9M1:c0k.3j.c0lM1:33M1:3iM1:33.34M1:3n.3qM1V1:31M1:32M1:33M1:34M1:35M1:36M1:37M1:38M1:39M1:3aM1",
   ":3bM1:3cM1:3dM1:3eM1:3fM1:3gM1:3hM1:3iM1:3jM1:3kM1:3lM1:3mM1:3nM1:3oM1:3pM1:3qM1:38.3mM1:3d.3m",
   "M1:3j.34M1:3j.3jM1:3g.3g.3mM1:3n.33MqV1:3d.33M1:3d.34M1:3d.3iM13V1:34.3aMtV1oXqV1:c3r.c2bM1:c5",
   "j.c5jM1:c5lMdX1:oibM1:mqnM1:kucM1:c67M1:jkcM1:m8qM1:12f3M1:m99M1:jl4M1:ph0M1:s91M1:pcpM1:kidM1",
   ":nscM1:kcdM1:pdgM1:kgtM1:va2M1:t8vM1:1359M1:m7gM1:l1pM1:rokM1:oklM1:oqlM1:jg0M1:jg9M1:142aM1:n",
   "f6M1:jhdM1:kvjM1:oo7M1:13bgM1:oijM1:uc1M1:ujqM1:l08M1:rk0M1:po9M1:po8M1:t9jM1:kjiM1:ldmM1:14ad",
   "M4X1:c0k.ppc.c0lM1:c0k.jg9.c0lM1:c0k.jkc.c0lM1:c0k.ms9.c0lM1:c0k.s5p.c0lM1:c0k.oij.c0lM1:c0k.t",
   "mn.c0lM1:c0k.kmt.c0lM1:c0k.pan.c0lM7X1:nsnM1:kvfMeX6V4qXuoV4XhV3XdV3X3nV4X2vV6XcV4X1VfXcV4X1oV",
   "8XaV6X18V8XuV2X2V2eXakVcXeV2XdV3X9V7X1eV1X7V8XeV4X9V7X9V7X4jV1X1nV15X1:1gM1:1hM1:1iM1:1jM1:1kM",
   "1:1lM1:1mM1:1nM1:1oM1:1pM106X19n0V10X41qV6X6uV2X5k2VeX79hVfXjeV2d2X1:jhtM1:jhoM1:ji1M1:4092M1:",
   "jr0M1:jteM1:jtrM1:k02M1:k3qM1:k4pM1:k77M1:k6fM1:d4uM1:41hqM1:kadM1:kakM1:kb4M1:kbnM1:418sM1:d5",
   "pM1:kb7M1:kcdM1:41abM1:kcnM1:kd4M1:jmcM1:kdcM1:kdlM1:54evM1:kflM1:kg3M1:d6vM1:khrM1:ki6M1:kjiM",
   "1:kjnM1:d8lM1:km7M1:km9M1:kn4M1:knqM1:ko5M1:ko6M1:konM1:kq9M1:kqhM1:kqqM1:krjM1:krtM3:krvM1:42",
   "hcM1:s3gM1:kuaM1:kuvM1:42r3M1:kvbM1:kvhM1:l06M1:l4uM1:l1oM1:l28M1:l38M1:l52M1:l7mM1:l8gM1:lajM",
   "1:lb3M2:lc4M1:lcpM1:ldbM1:ldjM1:le2M1:lomM1:lg6M1:lonM1:lihM1:ljkM1:kg7M1:m7eM1:lueM1:lvkM1:m0",
   "dM1:lsbM1:m1iM1:m1hM1:m5cM1:4574M1:m7iM1:m7nM1:m86M1:m8qM1:m92M1:mb2M1:45l8M1:45naM1:mfcM1:mgr",
   "M1:mh7M1:meoM1:mj6M1:dneM1X1:mo8M2:mpuM1:46e8M1:mu3M1:muoM1:mv7M1:mvjM1:46ooM1:mvvM1:n06M1X1:n",
   "12M1:ds1M1:n30M1:n3eM1:n60M1:n4dM1:47f4M1:na3M1:47f6M1:nbeM1:nbbM1:nbsM1:nf1M1:nf2M1:e1fM1:nft",
   "M1:nh8M1:nhtM1:nj9M1:e32M1:48c3M1:e3sM1:nlgM1:nljM1:nlmM1:nmaM1:58siM1:nnuM2:48phM1:10g1M2:np2",
   "M1:e67M1:4cloM1:4oeqM1:nr2M1:nrbM1:e73M1:nsqM1:nudM1:nunM1:nvpM1:o41M1:e9qM1:e8sM1:o4kM1:49mkM",
   "1:o67M1:oa8M1:oacM1:oaeM1:oacM1:obqM1:oceM1:odiM1:od4M1:odfM1:oeuM1:ofiM1:ofmM1:oggM1:ogrM1:oi",
   "tM1:olhM1:omkM1:oqgM1:4aocM1:optM1:onsM1:or8M1:os3M1:ov4M1:4avhM1:p12M1:ou5M1:ot9M1:eheM1:p39M",
   "1:p3uM1:p4tM1:p3nM1:ejcM1:pafM1:pbcM1:4c0aM1:pf3M1:pnoM1:pi9M1:eopM1:pkhM1:eo8M1:en4M1:kciM1:k",
   "clM1:po0M1:pksM1:105dM1:gupM1:ponM1:porM1:pp1M1:pquM1:pqjM1:4cu3M1:eq9M1:pvqM1:ps5M1:q2iM1:q45",
   "M1:4d3dM1:q4eM1:q0vM1:q8kM1:estM1:qa2M1:qd3M1:qfaM1:ql8M1:4dl3M1:qmrM1:f0oM1:qp1M1:4e57M1:qqkM",
   "1:f2eM1:qriM1:qsvM1:qtqM1:qtrM1:4ekdM1:478bM1:4enqM1:r2eM1:4f5sM1:r5vM1:r6dM1:r37M1:r8mM1:r9uM",
   "1:rbnM1:ra1M1:rb9M1:rboM1:rc5M1:4f8uM1:r9kM1:rhfM1:rjeM1:f9jM1:rmbM1:rm7M1:4fmhM1:rfpM1:rreM1:",
   "4fquM1:4fseM1:ru6M1:s1pM1:s0uM1:s0rM1:fcmM1:s2aM1:s3tM1:s3nM1:s5dM1:4195M1:sa5M1:4gj3M1:scsM1X",
   "1:sh8M1:shlM1:sigM1:4hg8M1:sk0M1:sklM1:4hplM1:4i0kM1:srqM1:ssbM1:flcM1:st5M2:floM1:t27M1:t2sM1",
   ":t3hM1:t45M1:t6aM1:forM1:t94M1:4j1mM1:t9uM1:4j4iM1:tbgM1:48cvM1:tggM1:4jt1M1:4jtoM1:4k24M1:fvs",
   "M1:g08M1:tnkM1:4k7jM1:4k7iM1:4k8pM1:4k9jM1:touM2:tovM1:tqaM1:g1pM1:tsbM1:g26M1:g4mM1:4l0tM1:u2",
   "eM1:u4cM1:u6cM1:g73M1:4lh6M1:uamM1:4lkqM1:4lm5M1:ucfM1:ufbM1:g9fM1:ui0M1:uiaM1:uifM1:4mbsM2:4m",
   "l7M1X1:gg2M1:4mtbM1:uu6M1:uu9M1:gh7M1:4n40M1:v6iM1:gl0M1:v78M1:v73M1:v80M1:4ns6M1:vb3M1:go1M1:",
   "ve7M1:vg2M1:vi5M1:gpkM1:4oh8M1:4oi7M1:gqpM1:4ompM1:vrqM1:4opuM1:vslM1:vvqM1:1005M1:4p6qM1:4p93",
   "M1:1030M1:4pd8M1:103gM1:4cqvM1:gulM1:105iM1:1083M1:h0bM1:109uM1:mllM1:4pt7M1:4ptlM1:4csjM1:4cs",
   "sM1:10g1M1:10g4M1:13suM1:h3bM1:10khM1:10kbM1:10ktM1:kljM1:10lhM1:10ljM1:10ltM1:10n6M1:4qpsM1:1",
   "0n5M1:10otM1:10r3M1:10tdM1:10p3M1:10ttM1:10v7M1:112nM1:10qjM1:10uaM1:10ucM1:10usM1:4r1mM1:4rbb",
   "M1:4r6lM1:h9bM1:117hM1:117jM1:118mM1:4suaM1:11b4M1:4rpcM1:hatM1:hb1M1:4rthM1:4s6iM1:hbbM1:11ig",
   "M1:11isM1:11j7M1:11j9M1:11l9M1:11k8M1:11oeM1:11n2M1:11rpM1:11p8M1:11rbM1:11s6M1X1:11v1M1:1201M",
   "1:hfpM1:1230M1:1233M1:4tj7M1:126nM1:126uM1:hhlM1:127qM1:d5rM1:4u5eM1:4ub6M1:hluM1:hm7M1:12l0M1",
   ":12ndM1:12saM1:132lM1:4v58M1:135bM1:1361M1:138rM1:13bnM1:4vpfM1:4204M1:13ebM1:13dsM1:13fgM1:42",
   "6uM1:13mkM1:13poM1:51eiM1:51fdM1:144kM1:147hM1:148hM1:51peM1:148rM1:14hoM1:14mnM1:14moM1:14jsM",
   "1:14vpM1:150lM1:52vqM1:15cbM1:iclM1:15dnM1:53bnM1:if6M1:15m3M1:ndiM1:15p3M1:54a5M1:54gqM1:ijeM",
   "1:ijmM1:15v0M1:550aM1:iliM1:554mM2:160bM1:1619M1:55dmM1:1672M1:ipjM1:1699M1:16d7M1:16e2M1:16fu",
   "M1:iueM1:56pgM1:16oiM1:1720M1:177tM1:j6eM1:j7dM1:17b7M1:586eM1:j7oM1:5885M1:58geM1:58khM1:17lr",
   "M1:jamM1:17npM1:17nuM1:17o5M1:17ofM1:17omM1:17prM1:59g0M1f2X4qbV5X430VlnagX7gI5vggX"]

/-- The action of the mapping on a code point. An ASCII letter is put in lower case, and any other
ASCII code point is kept. -/
def action (c : Char) : CodeAction :=
  if c.toNat < 0x80 then if c.isUpper then .replace [c.toLower] else .keep
  else mapping.get c

/-- The mapped text, unless a code point is refused. -/
def mapText? : List Char → Option (List Char)
  | [] => some []
  | c :: rest =>
    match action c with
    | .keep => (c :: ·) <$> mapText? rest
    | .drop => mapText? rest
    | .refuse => none
    | .replace cs => (cs ++ ·) <$> mapText? rest

end Lockstep.Idna
