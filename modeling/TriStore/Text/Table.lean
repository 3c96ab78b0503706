import TriStore.Packed.Foretold
import TriStore.Text.Basic

/-!
The larger tables of characters. They are packed together.
-/
namespace TriStore.Text

inductive Table where
  | printable
  | flatMarks
  | spacingMarks
  | solidNames
  | alternatingNames
  | joinsBoth
  | joinsBefore
  | greek
  | japanese
  | leftward
  | young
  | replaced
  | places
  | compositions

namespace Table

/-- How many numbers each table has, and how many of them each of its entries. -/
def shapes : List (Nat × Nat) := [
  (1400, 2), (672, 2), (354, 2), (1360, 2), (60, 2), (140, 2), (120, 2), (72, 2), (78, 2), (136, 2),
  (36, 2), (146, 2), (1146, 3), (2823, 3)]

def packed : List String := [
  "F3Qg_'[qsűkƐMϤMh5G]?#vwĠB |*îyD[|mDM.C0rI(:սzMlyU-3КL87ziGҞ9B;<f|UΜLN24ZŤY^/*``!;(E8.#?)¶i>2I@YY~m,gbĠUĳDXеǭ(@Z!8WVԦxlj:2bM+ ( k cJӔ!Όzpq=|%v89LLd>$,+r%@>oNEɽ˶h8_lask23He6z*ɚ;nEPtҍ9fp(t,ds <*2#?M1qBY<)?=˴Jп$D_I4MP%VjrwKNm]IdF^zwirf7Vӛw(?<ҭ@?J;MˆJ~AVUC G#N>Tw[.%Jdoh)?)1(cw(wA<I[dN+5Ӆ1,;[&QFu!MH/yr+jIsƇ.dcYY/[ɘ7`beK&|D9BoGIJdHn5V(h4EȹgiUOLF^_-Q:0yWc=<mcEӞCK9Aːu̠ImeJҦqZ,Z^AU|u7u+g0sa%D4Vwr?_Zy%Ќ2O=.*o4I),Ċ=MS+J-rՓRѲtf˪y86sQ@bL&)b&lÆ^ǕOy,i$~H(.Q|!M8rM:w3ȌUv%<C|4K(O^j˒[,f9~PJ6K4uaʷNgfr3]J'fg&>n<CBbŽbUĈ~|JʃbA(kcG՘k5&LґRTw`Q/crμFn7B^+sՓHlvΘv#/c~[(ăI!TI;v**@Uj?ļtq6EgC`ϻZ=/nT@LB]%:oou)ԃƓϵ)rZ(5N-b 6((սCʇ+VB˖5Ӿ>a[d5lw'l9uk @QLuU7lk_ūPmEWyGG5Ʋ8ԗ^fIbsj(͵ǡFͫ=4ӝ_/c^_Exk@gb(EZbd(V/<=ϘF&ȹ/AmK-@eOb/pccVԫ9:H7X:ɀE-kG!AJmWaUX^!yǎY΃.4԰=]lF;g0ɚϯ5*l6uŧE=n?y;d_yͧN`L3h1Ŏ4xcu'ʇqdL8nGWԨ(=0HW0mZn%pks6%2E3˳s*9v0ʤN?҄JXzcTSH=ʌWpg#3&><ájQ)0NFĔiѝ[48ALRZȦ 20b-qI̞fȡ#>QWO3n)lZR9DAiwF>wy9MP)/rJP%_Ke;K=(¯Sk˨=TYhj[47Pn1tOLȝzkFBN~]/ZƠSt3S+ӿթѿE[76'ęQ7IVn|t)&uNԃ!oL+LJKNkPX+Ģ!2p_&rv ̇9[tlENÿ5'xN^qlULVHK7:FU/ƊY̮z.VOՁ(VբmGV,e2U--1e;R[Fa.^yOQC|keһ ,9l6$VGWuGÃq|rbj̱/Ѓ$љ#L_Gj0VA,x8WɺJ$|3˦fʇ8!S5UӦ;M+r3:5tBe$eŤѹYY<;/H[o(aPč̪LHH1FX&H$P6zĩsgMΗve?sĈ̷!)'Ϟu7kUϸapa>4L2%<<ԍ)>ƛecr:Jk9lJSǶD*ɲ8%Ja784dtwi=_C=ZQ6f %Br<J1m;#ҋxQ%tjfGǓL6ȳ͙TG:%%RQ",
  "E0Mϟ'eue<K @C2zƽDB4.!b˵B 3.Ԥ 9e%XƧ,WJFFC5@f1!ʒ>P#NlD]KbJĜ@|w+Ʒ(vrvA~sKqӣ1LQ΍hFtn8h-Wdvw_?qÃϰ]x-AjZpydll;oT gssE&rkAZXĐզB53$Ǒ^@DG/ppUqJȨHmT; vkr>Vϑi[O`Ɇ,|Ϸ`Zb_&UՃ/pSwZǻF50<:9grIlRi/XӶ Ǘ(5L*@O|qyIlzn/qyqjb3'I'Uq70Okkц!Ki_ƽ|ӱipUOK+-ШJl_cpłtv!2pT6|R:S9ԋRP1iW!5u`Z-0,@>u$z`|v2VJg';ыy`0xHzaßl77Εe2̕SɁYҠ5mU,0% jr5T*#v-FV1WəFsSeҺ/P#nwljVI>5we͸cbvkn~ #wubYztϻQr%0&BɣհeX.BR&cЃs7YA7Chp+4m)|ŁŞɛ1X/i_5ĐǮMUƼ,l~O 2wɪ)8(p-cOQ8J2ıʍiWԥ2;3N7OzƹU°fo~4UV(ve@Ğ[d`ΰw7H*ϴd(&l)?8:U<CrBF]A|DvFG#;'GYe8~&VO;Knz-!9ZϿwR=y'_1fiG>?#4҈>L|&6>4yspH)>f3-.ӊ;9a'AE ց̂D,0#̈Prq^Bϭ1N/HͥxϡDVu~vGN__l'ʊ3G]a?kK5Gu*=Ǿ174л(Ƞť[ӆP2wq~pO$2#j9GEr,80ˌ_Z`^kV[g?UxgesRȵ@F`'ɈzB% vʗ<ʬ*%o<%u(0(f3>SvH Ѿq΃`8jDbƼ>0;tuɰľ/t*M,o҃~4dH6=pnӷcF8l+xs&Oj!3I)EƎZНTe'yZDöe2~ek5d_|6$'/:+Ԋ1xvX҃Ƕg|%tw2F(HCz87,F0pweԠR.JH`Ѷu``-^jcm)0W+Yzzf'Vѻ'bq7^6W58Ūd|vտIDXZQ˄' <ϕFXՈDÞv=)grns:Jƃei>i)wN:t<q΄ȑo_NVp/;ɸS)6AbϋfOQKZUjEo=p8pŀOhIхţ:ΧAԣ*ı|V(h|YbEƨTd WKE.lpZ^ЛBFɛMk+%v`<č:Q+E<̳t>DLF;ўAKH~JtXRa dUr+5tzL.͍WΖ*Vx`=DR&Ͷû͒դmłs8Ӆz)l=[GY$tn-c@unXŔa!yBA ,<i#%k>eÍ)8/AkJІ@#m OhQŝmlcuTKu]<,o˨E~lĐ(ɹ^1΃j`TXrȻҧթwhck,Ί3@qIq0K̭7]U;1,oc]@9+WAZy՟7γjRC%XӢew*ͮ3]թF>saVnfvþTL]aVYt#wʭՌ~PѼ,2.jBbdՋQ̒ʞbx՞'n$:΅+ʒY΅dS˞s͔.&dl<W6JyGͤ+/ya?ɨtn_! 9wznKǄ+ӫ*ƈQ['wQJh,[md1j7#35#G< p vpwiHb%Z@3bS;o^1=Ѩf.$zXuw?S",
  "X2F<=27 i;P/ͦ$#9O=0ZԵ>bV=GtGHbqHѓy(H1xZQNvEPYRR Pc6ul7@`m&YXMι4 yL*ʝHWcSD.3:hbdnoʟiYS:28o@YjBHă@mhեmvJ%F(ƀ&ˇ;<b_ҪktKob҅MERn˓t=;-9~c2Íәc=*!LzCCxTʰeq(fth)1ӆzb9V1=]k9͵Ti3=l`-SzD0S(zrWGǚ&eecƌBEi_fHCƜ9HQLAO˯F)΢b`zh?vDґSNj7>w18ɷ6Ֆ̘Q92zVGaWdlX̷T̈́(L^;c[T/|!AiCD]X+Rr_p!6'fZA6U0G2*.b*0ϋ̉fsRYI9NH/;4q2Lo-w5ʉ=lb;^ufJiĬ ΢fKVdTg5q̊Cl/n;.mv9tG+a$LIcaMѶdȣ[϶t&m!^ʾ=nENzP^6VW?ǧO7=-2'kx(B'rѓ9<&zsDcg˖zfkFi13RG8'/ncAN:b-?ǿNx*CÖMPI/i:SQz~Ƥ!le8.c:X>c4^i.*WWZjpjPj>ͧ,bwp/7_AJ^?ixu;űB?*?p16g?~KVfQƿ3ʇj(Gzu%(>kY8l$FԹL0˓FB]*N~h+ՎtȻЍ|͐b>.K+źŬi|21rw-18Yk$úA `!CY!ϾDt-14-4Y)k~!Oό]m-Y``]<gap>~LnbOp%-qYIXZi7ЄpeғH?t+ȥ5ǲx-tFf7gv-DU3`_*Xǡ|jTĐC?vagȳdZS|Q4IϚV(ph[+Wi`s6UɛͿMBS9(J^_&=44!jϳ²HWdЛuWMISyhlcѢYvd(A#љp!/`1.]0<o&.ģ>̟GOk3mKW;Yt.4:35/'<QPqCь4GV-@ǂ)S¼pnu-7aMD<]ԹZRlZiVVyBҍWw(^.1Cf<Zn,uh]k*q-Ѱd0ova<=Ԑ)ømwR^#]wR^z$gB:]@^?$3 6:3^ m@RrE_8Ge0f([Ϳ3S::Y(wOS) 9.]3b~HАհ VI8DOSBI$30$Йͱ/h>Z$f!@;91])¾^N5kr;G͂E95%Zi:=!,!NYǑȌ*vι[L0Zja<pbK!Wq#eiW(Uggü[z|15 ƧJu#Kxur8rl#TIARtО1ȅбDu/ӎ~TѽϠMA9QTklr=E(~*Oͼn]Sz&Cm*Cltj8CXCeKZ6A^ZjWa+ђZ|_9'Ȝ*uxTBB-J,y0@Ciuq3[Xr16%bv1dW7`wi^ X.=dZfJAF$U)`pѲMqYnMc704%`>)ɾbde8mjt0jaO(aͨZsrrgѪUb~2xgÊ>gշ~!д|#fdKJ=n%1Ǆ1BvknÕS;]m,KrLw8bGbћzaB»LՃ)_E19I+ʭ,GȂj+Iίζ|KR[`Tҭ̧3CϪǻȦiA~&lkcˆ,gՀF4olӺ$~?0b?gzjA/_ȲIДչk I]IsuodFj",
  "L 6F?QX +WK*N$&X˭DO*^1MqNSFiA]̬ёҁ%Z0ՒkKղ[!ƳaAWΐqȒnRps*d͏ȄǖsZI4,xlo̖qRCO'шqsZj`3fgrLխ>> TYAQB;w't!@hӧ,SJ3%.Wq)8fkϦ#'6u@GK@'7|OJ|B(I%w$:1^JX?:2,UFNj*GpN3d:E1w@BH>kN[<T7Ȑ#$^Z Wɿ'՟[Qk,<Ir<9o9BS'Ek/AT)QdB`Z|XDҟ!x'WL̅$[9bq8if0T$V8$ԜRPM#4Z?/oOĦovh$K`8#Τ<K</jwP&5KHSCESe4eăZAYŲb0JWgPn'RgeTysSNqF%x9Fv8wd90FwiǞe˽<mor1,BSa f>Pv̸t8^lX(Ir ƥ_oE3<t5óJNFsq_.6>ǈi4B`UbC~ХJ[SiBR]Y)#IrɺVoWp#KEÖǌ_cĭV*;B)ÆsezJSMkb=UG*[mG!%F+ClM;&'o3C6PICҚW!ӛy3>ȽZWѿUTD3FC]sÈcyL!tȢȚyZ+I:#:&O-nRΜ4f ~0$1nK~GgmLnhƈsD(955Gu>9ǱDnC<XEC>UlgjX.UfUz>9VMCos տϛ|+lsLέό]YPAVJ<*ɇtMLO~(tՂBdťuiZ`lg+ Pͳk,`e.*P<vIKF/(=i˪Gf^ oViά`U%Dac̸'E?)4?IKKSnzQɼRı-kvLM/EIǖ(hKu#:'i.e&[њB*ȶЖĨ5jbdWa#O*PӱlĻr98ǽzOAdT#m/8L/OZG5xcԏ6Mɬ^fIaZzкGʕʧd`^'Ϟ!db;B˟gȕWndA<vuPOā1S@HʪD& QbEz>7/5]ЧPzɃdU2[0$-,c^N5q2s`^,UtT0ձGe0LfMsZDucγ&.dq|ps61ɣ[ǽYxV@pG!:|Bw˖JąԂӲ9ʥM;$ `b!Rx`bV_rW/h>r=0rV'4Imo!-DCKPsnXnb|?SF>_!Qhƕq#J3ȗ#s5-RSρy7Zŷ~`,Q^iJ31i<QAAkC*ç&,Cf<ylvCrRψտ s&`VԈǊ-g7Pʿ|e&AD3ҧS~˴gyLB7&HX&ʰ[+Іem2M<,d)C*xʼN[[#ΠNŸ[h$^uǣV&<BX;ZNLFGΡfi;@#;pAVƴ_c5f(͍LQunӹUQHĎvVeCq~M8vzHr&RihXl*?RJW-;ǣ@q(Zya%LF(>4l#xgZJK΄[Q1oӦh~X[P`!'R(ylW(u%΢Ҧ(0>45=ɐ!ySHgFd*:E8vhz:2*Λ8lejhrs&'Zm:Ev42OxZ̓I+.Θ4рǬO$̼+`BlVD2Gc|t1MջqCtΓc;ʋclɣH.Z:8bцUe>̓!ɕq*Dx/+]av>~iȕKd;EREcHta.thr43xƛV?E&uAu jXW1rU+ПtSaSyNz*,QB5<j,",
  "(jNѤbDIFϰvrUg~f<[j>8%F;h`I?nWgU#KxBkB*M:zLJOųo&G`%vMu@Z҄wǊ.KH2;G+UQKJnQpQ66LMyaѺ`;#zs9[˸Ȩz>Q9K$DQ[OoNeC8$CTR2% d^9"]

def all : Thunk (Array (List Nat)) := .mk fun _ => Packed.Foretold.lists shapes packed

def numbers (t : Table) : List Nat := all.get.getD t.ctorIdx []

def bands (t : Table) : List (Nat × Nat) := bandsFrom 0 t.numbers

end Table

end TriStore.Text
