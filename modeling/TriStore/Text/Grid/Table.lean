/-!
The numbers of the grids of characters, packed.
-/
namespace TriStore.Text.Grid

def packed : List String := [
  "PѳƟKn69#[w[3W u%kC®bTq[;CclmX4<3`6Mb&j~u@=t)β΃O]Ͼ²X!iSH_jDwxXXϵkyiCU(kȡroԭʰlu'Hf*Ɗ0lhb:ɑppS(2z+/CIEfxŽbj`iοmJdiok/=5Ź)j;jORZmYK,jђoAp9fD*]T9ʶ#Glɩ$%RbNG4Vc,(~qmuR$wuq<.j)ƺ!EɂC%6@;,~-eZYXS9bUJkrՋUASǟjSR0EYz35=:T qrƖɂ+Hnc]iAƶ7(CJq-'T&fw@ι@T rl^yz%oJċѹValTB[|tIsEës. w!B:ө&03gnȘ9ȱ=/;q(CӍ!5b$T1MgLqD~FQ@[HϏ]ZF%@^ƺik~vKӭHAq(`jCH8ĕmXY?Ο?7von[r3[ɻij1pѳB^xhC<V `|3-oEĠ;.[O4Na1i,.)U~ç+;)rC+¶g.<kͪ(>]o2DKjYe|DoYϭ,&$26vΧ,^ĖD0YүБo @)0R/bY]b̕ɔEbXtzvbԅ-U&*m*xw.JƤ[:F(RƂW&QE)4n'LyBW!]%(ՌlKr=6Mvy/PFK/AÊ61cVƻψ(K`ө6Ӈvmmy~3Հ/&:CʛǙZ4&t]yxϺ`@gJR54OoUȬi#`/9,ksy 1RάPlqæTU9w;vsBzxnʷXƞ$Gx1ц8sbBdr<ZNi͐hŔOBP_~17c$`Ի#FBe5%ҢgH8)՗HgBs>;&ş^cg.+~zJ´JeMT΃-%Gb`z k0p?h#JW2ʒE$1#=SX˓o||XLǴSy/E;T%΅!ʤTN2ҏQ@OFlI%Nҥ_7]=7Ra)oѡ?o-#P6з!ҧ3fP(ѬgAԬNi-)%PJ6FK]/MGM%'a[$Poɽi*,:quMLGxN3 HikUƾKOe<i5n$az:K/!T?x?C8bz]5qtx!M@ uşjimʸ:<JhsV@ĦqwFR.l͊zēk7,6ijqq|JVcnmt98jZ'kS3B3x/&N̈r70RWd,`*CxAtU>CpOz;b3sk Yǝ`t-be)<҂aa´wҎPPhC'pc|,X^F:;8/`K΀E1[o]kdb<ŵGKLÕjχ8=VA+ϑy1f1ӄ9jҼIUShƟ)y7Q`̝sW4?ԚLd>CFoGx~h,G>XǿIԦ-mDxH+wM#cȉӘvzgX,4$ҊԌrO*~>uKF(s_FA>FoA0ƈңX0I]!K~nff0(QIIsh/<@VY)c~+bWZDW8Fay6>J^ l#dhɌ̎Dѣ|φW]OBoy-WȝvBrrŅ^d#NtmrQ%iչ:?ԄB-@lNt)qBD@;ϠMTɂэls;#AB>`|ҚhIDoSfB;Rwl-dgqxTƂtksS~C/|fxD/Eӈʕ|ǽ.jhn&ugn*bu3n2O&FERzL.:wˤǾ,%4űs9KZ/dpoS:<'2;rmRGy_YՌōcW>^(n(cSKLA`/",
  ":5yx2nb:˦r4pFgr&p Aj5fv#:TbR-[TҐ2F>bo&NCnNIzQ*ZF pTtZ9g6ŉ:8E]hO^xzfR@'@gwr+lFe_&ZO¼cmі8|>@_C3HNKA;8Ox=G^P|ȓ)EK;΋tK80E&L^(1z``RP:FL=LC 1yĒ2B3=A`DMm$4ҩ7)s5yaF~07KO΂>nwzd=u`gDm. w27b<q<ћu3rt5|RYҭ-82 VXr*̟ morsGQ8RXc.SG(Up$.='pchpI~ot|JƷ[F/hãNzɌAҕ6&rNb.|ʔT;)fG?PkȡgTVՖg|TQum9iZgse;K>m(ZsHH:/cjBɓLʥh̖9kċf*KV]AŸVq)[s`.Dcsa7'`L3Rd?=+@4~3<=6ϊ!J1/p;%*w;ZWvm>bȋ(`Ii=0:zudS`fˍwj+:#qu7-#L/VʰXrON(jƾ҉,%`Ш?;9~ngSPX-_Έ#WnkzWA=[tNTWx*ɰĜ^&,o!6 q=&ǏҴ$wkͣҲtBD;o$p6DwHOHQmsXA6>)A9%%n²Z.LQUI[a`z2bɳSyǃ3p3&dw`51^;u=_K!ORB?06ǘ0ol)O[˶Oˌ //ħ'og6k<>ky|*p<+яzBюz0SӸ'yZ+5Qď[lc˦omK~rտ9(0^*)KJ )?|ZnѴm278^G&4zoh̻WmSv:Dp5Ά<?ԣ&>8Nj(Ӥiw*QnE5JщNRBЊ*RwL>͆GNa><D8m&eɤ3͓͹GTg( c]Y:˦) xm[)բ|v't_c495++Lk+l/oIP(ϥA~u>N=-t8].vwƇc`M5(Qaϼx*MGʟ'!-]ԹM+>CJnNh]-CxhTu6ǕWSpr;IzhiIr#7)_)y;d(HѼӡynU@з:ͫ.tlfiyTKza4ZkEs_f<Q˭./':3n<ЧpYҭVB͒ƢWτ-`]&Ձg,ȸ(Ă'vGgaq3͚oOH+[nҘ)h2F`Auxw|V0,6P-lFf]Q< ^']?P@h,p0>!σ)UBvc[/EzOP<oEj;ͻ~HҼ ɻH[0kwE9Ĕg,ȴnC0M#PG˃IECzX!'H1S&P&p57&Ќ %`7[?2@ɟH=]'Q`c)8âT*|ǰ2aP.HUǦcUj̑IH5E$V_J<%8yVO_Ƀnp$gX3I9?|)tRrIZ]VyĝŗS_8Lx`kM)@Ǘ́Vb&ʧfűu`~*qDe0~B8rbϹ]W3zCql:Nc~/f+sLU-zYD̪ʹT'>Rťϥ7Ak|TWTTmw)`2EP[4P^|]AlPZcq.#/j*я`Ut~sOyZp5f8u]9B9Ɛ29ԲKɲPi8MMI;B5Oҟǈb?GƭJw).OQrhY_=AKX]BGҲ>|e?nBn5k54dns/0ғotk̪g;̦Ϧjy*z^ĞB&5Ǡy?ay3U3XѮtBӣoeyzFQ*S/3wq%v~ՆнǙƝsj$",
  "82_+#(nMǛӴ(KiElįΡVT?O$diHĭkrʱh^><N!4+UuWHgR g_Ǩ/Tg-FAwy|X?:Y#H1S?zx]GpKRY1G-8$a`ͣe~a04pRnw~.ưBP'Ê6lc#ftNaȵ]&>gpʉ/M=~^ox5̠`bF5Vk5S/icUǡs/9j6U;@~зy'W@nMJ_&w3k5üt%Lbuybe8'0<GR(N8KcF4mJHZ,B:%gLB>Gf/ DM6kĸxh&ͭЂqуug[:41aTpHHéa̚CҲ&ϥGv!c92$iՙ_aŁ1|]%IRnk+BnlNӪY-S(d h6aAІ0qΉS520Sx@TdL4ԩO1:|%-].x%xHv|G@@P ?vF+>CǼs̓iˋ.*ԓX~fC]ζʈYMMOBkJaZIǭstXɳkJA1'A3[1L*/HUqVҸ.ksi2:mwFyo1*N@/9ԜҺ3J8α7p2ʋ5zn3Y!BC>і=Q&j=/a2nT3_(xw,5A1;ӆ_OÕ]!w@e0*X/`aȜ3#+hW@vK&RңE:%Cr'y!tÈ_iɧ́c,2%%Ni.a/$»'jY2xo!ɛ̮<ϣjdAf0+6o'F5Mȉ.hCW w@?9Pif|u8rŵPx˳ѧD(Oρ;n3էÕ'>Í^;u9Wrz/Qɉ3cM0v1ViԪc!҉7Ye?/B(mEr!YѯPԃg.P^W$_̇*4 ^#ͷo=-IЕ]8OR/NĿOR=6:×Mt93%Cxs&|n:mpt@(F(7Y|?j?A9-V$-ov^YɶtQ@TїJa_ѫНLpŬgd(|tdIpħby4LCYl԰?'~Ț.D`3oa!bjl2JGȣq>5o˒HXAz#p*97|uQ?R'[bFTLHijqԦZ_*)K²>32̱1TLrϝ®G_tkBβKN,X`gFI=ffM;%C *]B4aYdsg/:AGˊuv4*ĠS?a',Ըb7xPюZ0qNtf'NNեfXʆPnrX;tЕ79lG͈>`DFuN˔J$/X]Oʇ+;?m(sx8r^FYI'xk9KIʶ5rd|ESNӪb854a?g8sg ezκ#qDKɃh|*B-`.2dia2#b 0QT1Hм#|0ͥ N%xPJI?])S$1u;ѫ1sUt̮8&6H-5Iw>U;L~Б82Pu;b՞Bb=RkԾBXVgkQ#3dTfu(i'`H=VZLnЙrk*h*ȼyMpQRSY. t3S`uG4Sċ|.jσ(FFvHI#l|8dº)nʁЯS5c^;P_uõ/ Ńƛou_ï>%xȘs˾#$¿]b:m$z8Y͓=Wrԭht)pLN5q6oG2[W)Qy5<+~1[Ohwdbз/:~,Vmv'bPol=XB7ñԛG.~8(͊5U+JY|e|8SEp**,LGjl|&2J̩՘Dh5byM%l'I͝_Ǳ--_JPՅхdT=V6lIeOTRmàɬ(nxЄWk6?ēnq[;Ujd`?r]Æm=cN|:]~3CVHӴiHUjTQşo$IƜs-#,?m+ǟP!",
  "|`m0uFXT%VÞS)OY>ƻ`#j'VfM|v05=nI.Q7ºh4ձ=LkE̪Bu[Cos~nSFxqPչ%Z0D2$ =voA~Qq=EZ#ǾНfhna̻ley2xρ6р-U7/tI@%zwuKTa'Hvk<W<g!9B+Ҡ#.E1#c0eCtKgҽ-tTj 'JéCM~@u^^?WLK'Mɀ02t5fPK_Tq$vUc9s8бnxŐ7`|i4Ko6F@wm̌e8xw9$%#+ՠәToK~i5hխgvESFŹU95L~FʔXJ89U'`ê4<2_xǙ9PpլJѩxLԂ.+C=%MΓSspVUJe~8˘TFЕo4d]ly|ϨRH)lIFyq^j@zQk70f_;KjUSGZuTDjƾgHocqpskĝ Ơ&@*l(Ls1%'eЮ$ueŁ^v-&2kw&ȼE;;1L=`1iR,qnJu_f8МhI&̅ʧ^ԎE'7x&Pìal҃P.fSgU%Ǜ`in=EƐhr:Ti)dm͝rB|G9Bo#0ˈ/TG#%)ӐB9`ovTQZѬat,ivhΐ՟1T'պѨ͚qR΍4СS;ϝb$F;^-ʇASfdtJ2U',R3)`3|k҂E-DyF3N[Ƈ-8!TͧR8èq+2ςhrby2аKeoo`;2-ɢ !qFT5B/v=a!^jUpoƼVcw@8=*p=$o<ӛ+oC9r+̒Hj_K-4>a(CVƜ'l]dTG0J]p0Kpgze6.Ԏ=vu&k]>rw*ӿviX NN`̩l] G~ÏMQOspFǔC+8 lbHFwϏ%L!*xpg3.~[!u4ef fƱ0Ή%S_ *:>ʨA0]]@-Z^yEĨF#FCMŀ6ɳ-M+~A2>[f)8IM*gRMo;Ñ5I8RQgĠ[|k̳Z+')UNӠ`<[SU4D3S<_f^-Ձ@3ѢX-Fs[ʔ+#AԬ>NTkdMy,mIhƸ67^:5>5R4eC2j]/Wgh7'e-0<9.B~nΰA.zxwk%S%?['vh&~_lZu*72Lt?+ryѴ(QbϊsL@V6!=Që!$iN`іI]-]Ew:,J%w4J!uѨ6t'_6:ЯQup#m5&OД1L&XIsFw6+AyȢP˚B+ø?9o|hiťϓhB82m+ij=9'erjA/>ePɺ@KյaМS0F.ì#т5#IQIjZXΓ*5ǡ,^ǥ>xyj6N[|~°҇Աs_hjn5~*h1ƹ8dCNu8<oD~Zktѥ7ň6R?cR^XZ:Ϙ:okoe^ÁO=KTKZw=CӄsF;buJ0k~ku*d'b0yx hDep.)n(hFGJ,Eӝr)[ʆ~W:bP%oi67ԧd&&p՟?KK[P]DKy1<,ԢÙL?F.3%#>L4EuEsNRU%-cb$d27PZ=`EVkNӣ=mVShʞ^ȁ`?fS=$iv1;đj,&<c%EOw2;JqDDR&B)sev!oy:xr)Sxsd4zƠo>d(_ʰ=[LBlfch#Q(RuF9y'SSb*Y<A$6)YʏuYqʄ,Dʡ@3R.%sHY͝Č",
  "D#ml`i;d9ӹ([ӖN![|z.Ip05-I0aCTZ-@$JidTΗ΁vSϢz]%tx9u=y/^a>i:Lcg(KE-krT[kqrBԀuzVHz#qCVe<fώö&78hK`BolOJjmt*0E%c5+~?_ *rE(lƦu/b&(iŧDSgyitş2fce^N<)Oʯ^@`kC*tZ`NY+3!82eXFI-,+uձ-@C&իIϦj?-+&seehIR:e61$r*ĉ XdTZBLvanTϖpȫ/Nj=4œR:x<%NIV0@)^i(T6ǟSsf@IM-4C^|Ɍăc(Z~ċpЌ̵-2ѹ͔]ysBΤE8|SiYl.|Λz1v/gpg@phNȠȑʻƕÜ)J_> Mʨ|CUpu*O^rh:dEḭh.K0&nĭ̓є@e-J P`ŀ<kL<wj*ϔh[ofT@MыJUĭϧ^d9яheEjT~+XRvrK3.?ZiҺ(YI;5S$m$z1Փ@ʮMfU_%dVRH#MԈ̛c+sL !F+1pҔHvSLëO̙dʍ1K˖Ofb.Mmrwțq5f2CEB)S?yV|g.|=<BM-H`lfTI(aK~BRY~RCZ5xlq)8=4+!ǟwŋw՟Ak.)s%xi/|||QPƉ#@ՠӽ7Ȕ$DxE*|É/bbǊVͥyŰyxϩi6B_MmDǠa+ƃE*gΐ(ԪhcrmjE3.Qt_ѻ`2ϰ(b]^Xb3SxMB;?W*8gоGnS3]WƤaȗ],x~^~|FfluA-i6LʢQP,<3Zԩix]RiȮ=b1~Qd,͒5[LDO5T:V5cs_mR2'iQ>*öB!'q]r0sN͵SƤ>k$?0:VǒIV@ >3.E9fyÃ&rd;EuIJTRh&]KdJo+r&ERûI'<u%~x?uѤB1*Bǚfh@1_9'iK,t=QdVrѩȯ1ZB1j-:5G9-+YV8j[GcCi(%x/5m=uaC5hRP~p-˦`peqMJ8Mva-J14<:,ud&vTXHRZɤ4<qUXs~u=iզ6&yBXydv̐;Ѐ'vIE=>Q)_F1Շ(@SY<-x2ɡiǬY'.Is^juM>ѓF+V&%VɹPA8y$a(S7e#N]JnӵkG ?yz$-UdoTsǟθTȉU)͆ĖLxaʔFT>,X3>~#.6!Ûӄn!g#A?u#NҾӊG8wgHBKlnj30ab]2(& oA>ŵ(mJ3v͎?dElIb3ƍPx,VZGbnԷ=!WƮW(L<K2C$wq]5˴ǡg*`JSf$j[9=$72a;T'&ɅҵK|c7SpK>i>TDZ) &#oƘ+ZĊs'-ͣʢNRnK#p$heUzíV.!3(=ɞ΀1bLdiU4VguPN=&Ci>Q(q=XǢ]y99ZNϭJH/QMvǧ5ʿ0'R(7/qG'/Lj]]VHIѣɒs˙Œ2e!О]@e6[g/o!qhI^>DΤoJM!SVzLFkH9('>YJ6D˱Ow#î'e/Lы¹C!/]JU~Mvc?Gubr)2!SWPRFK~A,'u$f>$&[Ӎ2",
  "oEWՁLBpϔE+RX-V,MNǺNqvx8`XZ9ê$ͽS~2daŒ0WNô-#AԳ͙Ա+a]nìu95=,5ӹ@QnOpmśuȽxeÐoED'ƴ]Wqqsa;6''M@O#H[̕WOj2''Ȁ;?˾:tnR37;G+cδ3dET-Q&dJ0W)2cpWz1a4këQhcA'?IAevḠrbp4ң~'f%J7ɰ!,5WKN5R+QiPv(ҪZ7-eʶՇoY |HYdwmԱ6U 5>ɲj~yȂƧ&&$:́o cS_7s=35KyX?XLͩphum-fx9V5fw9DoHbK]ү6j3&5m&?Z;jT86OH¹i!:<ǟD~ʰўGƑUs:.'Ʒ˺0IW;0XƜkp:r|zE@<vr3Qpxa Ę#h8M=vGE-F^AwFMIϗadcIzqE)g|cËNȉ4F3$CX>#K[zg0JÿJE,Ү2lO$w4W@NJʛNkғ#U8IS*<S]ɲeOHu>CJyʢVM΍_`~' Co-!CahLCx+0OyO8r-U9#X5h|H!I %X>hՔdgǸ<B×gҲα.69pm[/lf]4OLV[+_!xwAcu*~2,&' ըrTzeѕ^VuJ_GOEҷ2ybn]DW͆1Ç^*1̷,3Sйի:,5^1gjh*_P9XGƃ-Ɔ[7AtՏ4@#1UPΩ_b5sCŭիGКA΀ajiͷ>U;ˡӶ1A-sӘÕFwO?y(kĵ:SP!kMqkye!_>H714@Pāj4Kǖ[`*QGуI$!#-xGRMhW5l+wRƅǓ`F<)p61||αt<lKS`%rę=[a@Ș3n_j54T5Nǰ.0BnO[:ԔC,JF+-`&-ͧEMLpǉp?Q2^ԱVTcVe,]JGq'2e8ԀQuu|1q Fj g;KWvWS@r&c( 6_qՇeJơp(xCp[~|GSЀԹw[+.̜KiP]6n®5UnÌri2uG-o` 7^|?̏k!sņÕB0t'DD`<6edh*Ks6,Q#(PCuՉȣ_Gӣi^rHY:zr1<;sU/n)]xɴsVtEQEі/ǸbF|6xurXf3[cGh94EISD:viU@RO&ϱdD@)ӈu.ĉX<s?7^o4öz[T6<(0/#H92*RRżűm6u̇ƔŧO*8OL9!Z+I7XJɶůlh#M=W~k_[%(SbgM2:w`a1K2ɋ<(,Rʠ>EsoisFg#wDǒx9`nna18dD%ʦ:QNϑӓ,w#UqX'pKYç[9ΰ&[Xbeє:8Z?4îhxr'ʂ':r±>B^HJg9k6?qMGy)c|m8̢N'bJӻ$?B?=;)h^7o~BTԈuU%O-G^fLk!VINxCvaL'J^Ia=n͇L[x7iDԽ*RKyԟYʂ>ml#и-&A,??Ϟq2y8Pҥ-KEė@xe̐Q;#UΩQjΩ#M>i?f-[)fvm07.&ɽe&s#ŷɤ~>^vu0ĉ=@8MȊ`ѕU΁8XvLyP#j;`%j;x::B-!_͢Ö:~HHջO*u҇C)̦lt#%:zG͟Q3h",
  "Gk]Ɩ,y-ɣպ~/iA0gS,s3%a7FUh.C,+&MiWqZPx&qZ¹DKwɰzrrJ-/JeA+@`%8_uf1TWrj8g;Te'+l1ϡ,ϙNAD%QdP;r_B8@ǧ <FϸҐǣæTrm'ĪuU4KMH[4!%deD/1PUcSʀ8BNH,`Dύϡ%$?R_E6s$5a3I$T/T̃#T~ĶesF^[u'Vϟh-GFUj&af4īd((WBAg*w-ժUa+O*G7iz!_YŷQArʄSVS5X;YgKϜ=09 =VaE=ҚJz?)XɸVqqH$lԋ[,rwfTÖJB$J&cjIZȽ^|_)B=/PzuR5|>WZ[7a=]ZǒUP:@Qtʰ`VKI.+`<>FcAMJBbţhn[98w*YѫY˓6kS~-Fі8VkмcM=qe;GImKSyf+?fƹtpc>Ӵ?^.!կcx44c1~Йtͩ3КJ%RCːĉhԢ΂>zуБ;!R=:^/. ^wխ|˙)76.S)9=3ZsX(NΑM^xTxw<x9ɫYpj~BDR_I3EC<W04jss41mJZ`Ժ93`2*Ȗu 9Ld/C#ʱ1vg^#Ѕ(b1to+!zȆ!6.v0ҿny:û+ APϤñ#$H'^q!J$/TEWϭ7u'3&KIUQO,0˯gѠ::%q~бƆw6Qz5Ҩz|6fW7#&#XՁɯp,%ΰ%>Nr(v@h3sZϑl45n_+@]_oyӝXTĄ;Ю/I%zҁaeErnxXl@vER oS͐sIK*()URWJ=~Xo&rflǛ0<4e:DwJzՐϐH3.ԣxKGp'8ʳ6.cr?uyua:6W$$ƀ%#$ԬN30պXiBt>*I$vovohƨy;)Ǩl7fnu`nALXMw:Fn_54-QTBҪŬU-JO`ųR7f!FoSgK?nKD28xb``$IN*ŷӘAj%(V7ǂɁ<.gvV5JC-+O9UW7>US*za.B`ǳ$Ȳ 7Yxx*Ȇ)'1nHSMm;gpf&W@Ϭlʕ6!Ɂ^ŗx_P?<d/5VR95:')_vKF3@dsF?-<[XgF1xЁfGL- f1@4g7|!bzn45K/ ^ 9Pwk0:b<N^Dc:ҸbI/@b]tTSЏˊ*Z8_fBe;VU%&ᾴƌ8fEkբB~0ːQ<+x/Vg~8!lq~6/o6G:oΥZ)̎!eBV8ϒěy ~JBkxFW:)F*g777ˢ@&jS1>5k,L1n_hTck__ˢ(TT4j7öǐpTOiQ2ibȟryUJB3il)kP$(tn>ó;%b>3qJǺVg<8>Xuέaeŉj5OƢknXO?40Ev1C<'Śex0~Yid±o;VX#9W˲ß^Α0*Հpu+swH#@Gb~GnͯnAmonI).ԣ:1ɢ'K:hkҧO*[QόqJ>oíӲ95p=Lrӛ';B_1)kS1ZΙE;.Glu->^PϹ!;>3Dvrb9K]@/W1ZЄ:Av)ˊ*ϙ&g?ȒZ#ztÎNL'`MX1*RL54v|FƶO/4l8!3W5:Ț(3xn",
  "1`qfRJ)'ӵtQmyPH*7vCAeZ6xw9<^/3Cp'+bS5w2`~:y'wi9VH!4RGewO1#lT8yh?&n>>GVY/2uW+;uC̨>&S5F'8PʲFmA@w-u!wQjkp7RYQjÄ@L;mDA(]e.ΓMx?rjWLT]%P,ʍ8m=VΒH C*!D$j`b]2OBW9'7X0!yGp%ielTn.[RDmXI+o`T҅ J!)Ճó9;^ǥ[(P<ϙQk[1(Y5˃yHCͳ%9ATkhЌ$%Y&_t(GIud|;)Ҧ1DB~NW~RKt+j|$Ӓ@HiBT9AAA0%+UoąAB2%p½ɡ6o,wūȚ 7f7G,l3mL,Cvi>c5ĽQU6.UА̼zԳmy0HTd3m;M%?]Ғ/ԅ:^itMT`2S.#d!%)5W*2I҄lxS%ȆP#JSQ4eg~D~zrGro|GI+2_qOǛLzJbµW(k$xΤG|F'(ZCA!4]ͫf5(;C+ɅRR/<FzΣmGQҹrDÿmbHLC'ӡ4^1WfyδZ<d6<Zx4:XhƩMdĠ;Ƭʓӏ?j6#k8Qe;*Z/Ь;zībDZi̔DidK;:1ăa:CƗ+D$7ԏ'QodQ@5͌y'ŕT_3sH!;^Ԅ̮!n7áY^GR/Ʀf3@?LWBiɪ&b.p>π[M?cB:|ԛyД7ɕB6*Ǿz^~Ͼwʲ=*RRõhNyaZ_gRb6ZWOC̍ǘL+v@z(Qd+5g.ȁQ)yi 7ІǶ!Aɨ|3$/eYEbM&Inc#h/x,6RdYDfV#xrw8,N[C<`ȅ!;IFEh*[A/`MO)ffOO05K@u%1duĉϧNԧj΢L!K>Lp*ӚgÁEP@EŇǸ`2RvNr~HzX.1X8jASKX q IlTIZkBQʲ*B-~u52Oh9Hopo)=SӍ5P+>QnJLj6mgG>KP=-i?ɸҲWetq3MN_æʲsum.ZcƠ;ybUҒ=ŭ<&]UR|ВNS4aȔ|om]wn4D2('^V)3|+]%̩>#qYC0*Bƙw_UոB4XdЯ)`/ĶuZ6ζ7/xĦDuZǣY0=CGn9A>Ņ/5T|i]v@LR6ϰ)TƔʵDǌ~_ g<6|O-leǊZ]JX#c;^,Ō҈wgI|=82 E6OХ )#<έG$p]aĩdS+Q5M&was8o#B]|y)U!b1fYUE,I4nqS+պ,7Ȭ0ԥ2L.iQ|)K/10%FUQ5cϺ?-7MezVa|9,4U75ːkfA&a9SSd@ջni'ĪђJӆdHl+J@dP`X2<iΩPf1*bf@k*Fd8(L/a(ͤd`'!āIMĻPru)5KAH2ըe̒->vпz+2_̆oY&Fi#BW6oÃ˒f1=<%^c2VifG(TWτ5TEW<fԦɍG)Ɉ)W5DfЮjƊRsU!gʀ4/Ռ)YMxJ:$u%)pXJoM,HϊOiv/̓m?Nqѣzf92jJF`v'K(ʍV>x'N=$M!T`9,73~Yo5E5jĽxudNy<#MS[/Z<",
  "a=BMΪ-S:ҋ@g[<;tJ7u]EMq_΀̈/MLDJ;śLB>+qs_MFJoSkd-4Хӏ9o ED]RUPZ͝E(ǢN$!:0'Tf-/]ѐu5pmѷ<O#ʔĞ3vȬpeҺ8@^P5Љ6>ә#YiþqN2cnH~PHI#z7VJUHsǘN<CfXjbjGE@ε2NκyO`˾Fv<bgLɎk?I˜z-F)<R6eB@ђFRӣc`x]h~!m[CCOW+['fxO.n[E|271wtbǫȥ˕o,u7O4*`]!j./LŻ>vYC$!ǄnCcՀ:JVS8+0 ͝ɉ7hY.ũSgGRDU*TȂ͙*ɽlҬX.Eǘ' EM3n)Cfǵc μc^r4PӞf!$d_@5!?cm4rƳO^ĩ.l%4RK?`2N&w?nȄ4f'FwS93Л+*wQ2dzW&[B:0(2a`gq5+G9j_eq2fii $ĜObRCy5Tj<'bu77;M<C`_å3Q&h;vp_Ҋ.@uBJ IoiDPyFvVfBDI!?y8eHJ,ssQrWVi,I;@k'`s3o&tѧiccktձfHΡ_39gbSY;ͭjk#ɫH,(W<l2u΅[j:3_XǈM->τJ1EDͫu7v`H|ZĹt<'~0U:J^Qv΋.=k_ƶ̋2QelĖ.чeIz3-0tGA(7!)nLmV+B!bps8KTwЂ/SK̷ՠoLUL0˲K?$n |&So`g%e7M>s<Ρ.6%:8sE0uh:5@ rІ#yO%DoOxDj8'ђ.hYJ,Ԡvq)0ɭiyeԚ_R<ϫ+Ԍo+DпJiC4J.r?H?vԈ,0OM*m+ax:S% OSzGŃư^Pr+ դ+.nv^6?]V<3jFw?/mX1<2FA0S/k^]yɊϾƤ͆Nlȯ&>xOUoM͢˗Ǒf8F#MQ!J,/A6ZD1+(57XǓ!CrB3B])[[sR/`A=mzVmǿ&̀eLl'v9>inf<tfy|~an-J?hp/lʀ%+6(nY$G:s|mΉb2>ӑi%φV&bтWDCS8^1ua1W`Qr)#>%%Υr(ǡqMϲZcʱH]r&X7YOJs^x&|H!¼j44<GȗEVx>àZUP|f 5Y+==lͲd:Ap˳+x*[+@KvΤf83JCq/Qd044vQW[Ӿ6?O͟͸^u]%/IT>a~UԎu*qxAͤ$̴H[ThS2>˸ƇTFt²^8c8NBĬO7!Wն[WCKDgG!En<sWU07MuNCI_*4j+O_wK,ao6PQ/&Kwf >TɹMg͞rqoѹMo2Ռ_ż0~5Md)-O)b΋nhBdBUqőXJ*ah W~53R*Kǔ&>daF%MƲGn.K_ĐUs1Vg<YD%%ˏ:v^Σ_nL2Hi=.t7$Y~D 4YQu|-Ԁ^`*@Ч_4Plf3+FvX`.γpi73gKo32Ћ%:NPI+WKÖfHb0VXBҼW9o86-vyjҁssE4:[(lgYZŎ_'G&ssk2pemyqeBFu^Kd^xω%ӿ,L?5~]ϨmoF~t[I",
  "j[E2C+5Ţ5L$ӥxtV1mՆa%X;%G_í;M[ŗvz8[%r+n-9v5foBpJ[@GA&V]0xTNʗ2kU7ӟ*J˃lj$$f4]K@3A@XĈƣO9O<j8=)<,6T/)!ȳvɌ6ZeB/ep.rkј2/6~CroUz&VC]XzթF:0Xu-H$҂[fSήV_b^<Ы/4ɪx̍f͏mĉOŻɖdXuG3fiV&VՐ6D,JjjGӘ<>_W#J^z̨;;Ҽ̼O UYG3Vkb!&O%Ebn=͌ytówD|Ka?0D9CPzн ѣĚ-աA@'uLȭ'jWcSm?7N>ɗ>UPm,>U|'KpaUBC.vbՙs],rxo];0ca/^Ɛ^WuSzVz(WcMeJWzhȰvt'`-ES/wɜyMҫŅ=w?jmB,f>:9^ΓT-Cǳn+VGŗ5S.S,C2c9=OŌMWBjCҮT[le%fX7pRmҭBjO'IwWjDlfd0D˜*a+πtc|O0EщMdY'xյek@m0$l$Rl`i-J@?Z~|l'DZpArtanXbrSJPfFw&'/Uo,m+r.1Rz*.dS-κ3V~oA5h>aCTUHM*?kf3Of*0ƏÍỦQ#Ãtl)RcĕcQfaɄ_t^BZ7M&L3X&bО>PoBg>/cXoʄ»vrRɔE+Yů3555_FG?6hdwà2eS:4&BWu4n͙4[˩9iɻCd[<IϞq]7A&~G˃;*l 1wOeűySww!jЙ%zX'O>%P$E3J,xQҞ5Ds/DkS+Ȣ³ɂ?̀:Ƚw)Bjx~&o`:3`CpЕ^G>jY^E.ZRz/HΨdՌʬql$Rt$Gϰ/ӽNX^ʧwS<=`pCʫėG/.Ӛpe9>x%Ǜ ҚϥÁ,Ølk:q]=NS,;6lIHQDUͲ΄:и8xZ4pp$Rk3YaSr1xdFmF:<*McP)+r2efuK,JMeM4RYx09f$*SϢ̗m9U3dBG7;3i $(eBtht#M;~ժm;ZA/VрĴXw,/q(IxaALV#BƛeNL4 p614P[FhOt#_^ԛNnIyr-tկ͏T_Ɵѭ<)&Lzoo-/-$IͳnW_(g;*X.^4b$+00pKj3TϩX*Zt.XuT4,:>K̗=)KFZʙ_rGwӑ0)&ă-uQT'Ǆ_L|;ԐD]'&=$_GXEA ,j%t5?aRrs>nˑ279DMdMXoj%0vNEΑQ0Ć ̑HIs wkT]F˱BZB9)ժSswLhpdQCq2QM_;8V0j(vxѥƓm%2ҿoVC!N.*#ϸ.:58+0c$<oTǮ̮ t1hTH22>2mVLoKΎh)zNL<]Hw@U]М2fW.kNx$yM!nd2@Τgur.ӝ=]lgk4:r|v>~q+![/>44y-KXPV/Ȁ#(0ЖY1-Ua:OsBHA+E%3CĎ61-HSH6ҝ?yowIdu]5ji$68C|@Bу8Qz+.3#[H$m N˜ZDiЌɎ,TJ:sOh &Ogje588vipA?'iHL*Ǧ",
  "˫%1S?ϧ6Ӫ:]wrTyM(K;AoOvkgPɌs$T=͖]tѕGdvN@U^c(?ZC?ƫ7!kҥ2,E0γ^˧IT4vyi0wqIS==>G4`.uW%*UÍS!Iŷ+#1>H>.eUl-Eu8Ѱm,'Kz&SQlgҒ)@*369sÜXG~9??zʶ1Άe##&ROvM-I>+Z,:=#ͺ%T~ҁs~qwȕOn6jzhB7Ρ:vv0Nřϻ1#ckrVgϝ,VVϾO$`>/̥*NFI$ɶQ5IHdrԄɿӖF¾ 1.|=@VeTq>W%?wRuwH'qN&0іҼO)a3[̻ˉq_/~qTњm.1ʃn</uHW9swtG*|rd7~66vUpz_Tq@ePVjC-*ta-/%λ:͗R̄,Դzx$M_7Ҟ6m8F!NzF͇|XnIA8ӆĕDM.i1d$)z'iw.0ЀvYf`-vqb)/Ԫzl:gDϼ3m|Ӡ)MyaD+БjLaϙXv)lPɦ*Qƹ2YѧvqmKejBT1kòD86x6(%1΃8$bxV.Qx2kZGI|;DB'ҡ8Uf7Dz _0?'*D^-Ƃ#>.9B!`ıȑAɽ2YZz.®(^>i_w̯C%a7̣ldIstMEqd]r%UDw9*'J,@Wjȉ7H̽uIJBib)p6*ȋsll0HfDRA2)z:1k.pBd@/al=pҢ*kMFhQ#UźqV,wQ>nȶA(|c</,PsYR<c.#t0gũuRϮE>EjМ@IƀEYSO|sv$nPdanѠz'Їiy;Gd;GԎ=+:#v*]zŧX9KSn.ei](<ZфMVsd%.ʪDU>`MŇQc+i>o(=D?3k[Ifr<]j˸Y uoH41&+#k/(Qq~yǢ;dBcT6u `QǓ-6Nw*KŸv͛5J[j3vҷfgTLƠ6vvbeje$hzuՓ%͂ѶiyNBԳ ;*+ǖ|A®ˠ(Ě,|vNTackZ# pAudɂɘqT/F%b1@OUZʂtb62RkþoxK @,8MӨ0Y kNKvv6D5<tmğ+$=ylQHEX?8ĥmđ2EkFCxcu#8T)m~*!K52lRYhP3jE=PD(^:A/T/:;:3MJ;n˘mJO]:yø՜rJJSeWlt͙3<pMALE6YHznW'am7`n)GjȼJxcoK&· xƅ=@7I^aҬ_hBOU=ӫˌ8F+Í]V`hO6y^|rSK9Q%sn=)A̳tQfetb]7evy^C27Hb%cO!rEm`%yKa|6&[1:RJ*C:j=ΝcОG/CSJ7|[=K$k!JtrsYԬb w$^b4utk[b3H+vϠKEȒPIӌ^@`0z(FSBW-e,QVC!VrpKλ0Qok^lyCh!(kHMmmZ-a4lYȂ%1HTQ=zBʉ6xxsyʶlL?żͽcaΞd4`Ww'!Wihj.UKMNVՙGh̛W&-^Pl;ϵWOzAhœB2xúWNxAf5'˖iau͵m/?.BķH˶'Њ,A+ŝ$K.ўtwԪfuSWZ[BƓ2SJNpщw͝=TJ/*̹+tK",
  "nC[Z5<%EȬ`dȵ9;`U5~-FS<3GhoŹZr̔rkJx$_ԖM|w!KKefeAolz>N=ŗvPL*ȰPÑT?Ϋ)=Ɨ~NLӅccP_9G'8>hφ'G(sjM$ń'uRa(hKeϧɱP5Ҏ`m+U.a;J&':ȱo6(UB uRLā̻2xdkNvJ̼dacY.,5nfΏ5BvȈ½1ӊaAͿ*=4O7NBH!^*V5ɍBHNp$D`jɛ!yir]ԁRDy3_uIpS7<^xS9#>ʑ8GQ&JG-@Ҟ@xADJq.Mop0p|P[0x)hLrWhdnb$=CO,NBs+SӑЇoR,%oЏidutyJxSUwh̎m^(D!/p#ɲ3=os@GK Y,XГX.(CƯʶy<ST].->DxakxW<1F&x!z,`-sq3k'gòD(kǀ`ÏK:a+b-TZNն)Ƅ;=2՝QϜfBP?Hz3w1]İԣh`|j9_L9NΕCѭS*<;)(jg2QGye/*r8Wgvźx!bхuN7XA4qnKqmJL~#zQ=DuJ[/&z3Ѽ71aOrԔ8ʒ8ŉ)hWqAιFZ3ϕsw?=|T ɽYMmm8ebda>/t|Ԇf.dҢӥFCG3*I]T^x]Lx<./+/V5twdä)!<kS^r&e2Qh$ZT?9+?vL5#mqLigEQ[ĲOlG#!POnȮ4;Hϑ=>_OuZd]ĵmCG.96bHCtz+(qot[&Ŝg¿`TQ~%նhnZ^0:Ëa>56r+gg'o-@y-vyP9.XF:jSV$3ѽA7į3L.ʻéGС'd]L$Os2;/kr#RDM2=>ǰ՚նegZTB,@|t2ϲXy|@7ҎtDH4I=0Ȝ%wZ9fTykƥÊg`|q˘`v'DWxWӧtO3aWnLlNG+-ʤc@]BԗӠXc7L>Ǻ4O/uQ7`ҿJGhcuZsZUɝK~JYZ5l iCtZGtP(SǀͯlJEJ9!Y/jf=elzչ8T,+a&ҴQw:JKwʆ!no 1t_$;.PcU8S'bh16B1ƒaØo@FhWmPnvc<HXqK'</ûHn&aϗ8QslTP]zr*?-CEJ^p[7*Dpzt]pqKG<P-7)VO̎OSq]Wdr4̚fk-2ofqU,a/YW<U-5>-7k5v;r2C=!V$jeYZ*:59!ӫP4sqŎ0Dxqbecԣƍ6|NrFpl`-o,jGv!Tahpɹʒ(pS0,WԦϠ@)7/^Jo8ƀ.;2OP,0`<+J`TCD˵pg='oX>G̲`RSGІA#S,!iv[rj`cgŕ;Yxm7p/g[ɠ$agyoPyd@z&ſRk:̘=cHkDSӰ&_zJ2@/8 ka̅=15$sAr˙D(TIxiŕO6gp::`if`Mğ/ÞGAiD)JP8ƍ@Ր΋[0g`/sі-6SXtk͉l-R|jZ_dLHƬ(ŧoaD.B%;h͇ԎZp+ъcNS#nɌvmMCRSԠ|όW=ӸƧ:hI@qǜ$=$ zn?%CCplhOsjeU@XIv *!M͝Q'=gfƟ(",
  "ZPzI-uЈV PUWɷRbR.%՞f+ϺlU4FӀnHLWǛS>=Ht$T=6]ӗաy/įIARhBeg;uˑH*)Qy>^/Hj0oդ|Z*gһN@AiElyϻ=ɞkEӂ=4+h!;%a!̼fdWg<kC9VʪZ*62ϤNGr2f,ƫ2n]>:;kJ3NRŘXBR&b=0b0]wLy+l_Ǒr_~Or(͚J#'|dգC]ҳ?-.$Adks`!z)oYDņAѮʚ98VăeGwke47Bff09`r^R*[iN(mK8Gp3̆̆A&Rw`̫m<ĝ(Kɨ!)xB_qKuqYZi^c|n H#Jg/ϬpCjəyP/(ckFqͷLss͏ŤK<x7Ԇ-pl3w5ǘQV5UrgOZ2Fճ5xU2I'TA-T9@MC14%+D_5ɣ`pӱbS;дƈ̵*;oE>uhIj4av=#5|l)1^i=(+UY]DƲ]hj-VgWO<IlNhҭsW.opU`s4JMD0-;ƅN|i[ȃGSi])9p0BURhq:J@K)ZQӊxZ2YPGb:BDC^/ШSXS8Gai2#fπz[AJX;YY3#XQ@Asf5Rug(/k0RmU+:p¯XRu17͝ZT>r 9`R!6ivkvS&ςDv,kNe3|Sα|Tf:̓oň̀hZ4ŭQŇ$MgξVZ#NS>`5a$HtWee:^d@yyqBѷW*T%Fc%լ*vժpMtzeKBIWlӿUKv_?ÉpՏ Gw$i?+J^.eZO0¶.buʛGnImj~<2bŃP|Mȵ1'^i%Mȥ(;8)K~wJ<-mSsTBIIW˻GajrR4*6Cï-cqv¹'oG1|OP=;CwwJ;ҏVu%A_GIcIә=5K~l??ˀLT'R6Ӡ.[1IIV_K?E&V^gW/p?($WЅOv&=>bbW_NIfЗ$Z1˯+AI 8ȴH xgs;%#a$&ST%&і3*dHu`c&ԕzCîiɌ<?cӺ!SEjO)7S/ɠ^e>L%TG:g#ԒƬc0u%6Ͱl$.c|7΀;c5Ĩ:9M>ɵђly˲De2*iPNw?@sP@u,s1ktkqdx_JHjESOR;h՘H%>ʶcNS2ˊbTOTU~1ɮ'eИjz Ba54ZāȱÆ!_rp@'Qr$$pOGe8YQ/RRdTZ<ǄZ)Ղ/J$I͎ R-FLq*-Cdw6qXf=С*V^XNa!Yn7IX%xb]ƿ?^]_MsғtZ/Q0XS'Lh9i9-P:>43E#D'mnŶC(_$ѥ6VjPwA$@/oS+lEgf<g/^J%gQ4Nb7qΦG?:(/5^(rsSy44TEtvh?Gc mӎg5WoG>&cYvLa26Sr%%?C)o)<ǛҔVg4H)biG4'#OIJ:6J+v#8qxʪqղ!/GoԨˇQ12tZշfr:6kry;Dl?,%g!eSZ@qeZ҆|lC6kcѣqsV]~=u%@:ӂL@;#DSO=3wYw;S!rk^3SqTu/6-̳ԔMXc:a< Q:7O-$|ј6vX7'j-sT´6R'7Cuʧ",
  "w+.m91(p$92PFЂpe4DvRARӳ<+Rz4(/Y[0ZQKӚzgɯ$vl(oQf/uw;MiՀ͗Ku6ͮpТeREAԾz7$cCRbX7)fp7b$WmVc&W)B>˄G5>3&lԪH^Gj˾=C4/ot]jX)`rԼuZϘom|t+9=ïPPu3цhFzP(0dNРK&;$yA07c-YMǈƳ$lzkƙ20N*eըR,ðHs8;ūL]1A97=5iˏX;ƫ]vc9eY&q)nEamz8HŸz60-Etɴ]AaKLaP@sC?ˍ*Yf1ӔoTWxnd;YAIe`r=ըΆԓ%zhCT~pC$Z2duUŰ U<NMPXlȼk*H;',ŷ1mJ?Y9xBԲѧ=5=zbgcKG2,?kz yxf^*FBb.U2dgO*VzeM/eSr]*WSquǀ2J//oµU6T͠|L<e|#ǢʖP4XmGcUJfcnlI.ɁSDǪ_q͛@cŖedWơt]YςkM uSo_=I_ΦϻuoCZLw]nGxé|!~[hexNDb,EBkzFw30&tu_yЏN΁cG<Q@$#w8|.@СXm]/ΙwO5*%`ǋ)o]<zq4Ӣ$U=Aaǿ=_>Z;Yk-#i&'C-̒ռŝǶ%K#^Z&AéXAЀZԿV!Ѓ@+FTC˞pAфX9ȄT,@cy[?'xFg3çZEN,ǀv˧+W=š1h=^Cpai4RV_ɼ;,@çi8v!Դ-RY4Ȍɚ%oX4=Ov=|P4lxLwZ;]/OZsBB6)xeӕ:RJ_ʷBnsdqW^-A'P[r8FHrR>yQMO#`Nʋ>қ#Bպ̮);/hFǌisvϤy?$Ilα0Je8D.k|3_IZȘ|K[|:p/006[S`L'gJB$NսJѾ'.>^m+|upc?WzLyxX>!/E3YKa%oISY;>Q,#cwuԙĘ*Yqȿ;45pkFnlͲBN.=zT/7đĠЇ;KjOW`bt od6%JJR(`g8RsM#X8#Sɀ]E>?Cj!diuT?gEU[Vi0ճ1`AI!ԧyG74'wB>wO8(s?0x24rĳqJdY aq1ŬL)Vh4ãGď74LD4yhzE@d+p@łN;8ųb3fnu_u86I8|@%Ɋ*LjXptJV?Y52*/qE18шB(tMTMwΏ,UYn9A2[|un`Mя.b)V5PXg+y>i6<RЍ,=u^W'irEa,!^5q@9PK2%v=Z~ǧgp5$^?SŻ;3Ucvƶʼ<͗e'˙fGGʗv+K@x1!YΦU$E?<P:(Yx2kǻowM0[7t]?ƒtOI+Vk:n&sC-;W|ЁnE)×iю#AqxIR<i Ԝ_?'B'ǉ7ȗ>lŵюu3Ǯ, Մ%e4QG&ғ#Xw,mwЀR~Zк҈O)_ӧITDyC17xԟʚ^HuUxWoh,R>8|M0ԇCy+$/qyԌg,~?DvR:O,αϟZ/^ӵn1_BBF~4C6Rk&8k_1,Ƈ3'Ģ=@B&[0@4ibD*jx͙jwqcW+:ӉQst>40Rh3D.%P/nK",
  "%%;Ԣr?*RNBrC'NQ[Ӵѻ1˥M(+#d/GkF7[Ӧ?BBo?<.N/RHDckC(/z3mX2=xb)qt!~fyKAU&O˩;!uN3%+ЎuՂȉ*a+BtV8o|#&8@>^Í5D3?2zC%f@PuMí>dY>*<5ϿrDX:9eP?K[h.zUWwMa 8ɳȰgYh80ƼX&ujO9bԥymydlsW=nz.a1vUgcav!d|=>b|=6c'V$!yqĞoʬo^~kHl|liYqGrVGbfxgYmnz/Hzf5I-Fx|lW68D<?SQuչʲH!iиu(:nmaxBC]sξP(!qS%`^<W#s?`ѳx6M!5tlAjϝDǘ[eX05+bXyǝ7p_XʝKCGsXlDMWЬMҵGvϺa^8*h5X#q`fseS2^[s,YfEdzDó6rR?_>˭̀wDkdoͱՉr@&ͶcɞR+8@$tY(rҕa[!LTcJQ7KykTcyYB=ƪ% i6 +s,xIѱƃ;ȯ5Fqa@hR/`,AoĈ^@%И̻Ԓa-ɨC!f`$nP-kͲ*Zay=ͻ^zIgfw՘R)ħ&D2q!(jvIi;>(su~9̟ƸrN*&cEmOǵ͉k=[1]lΝ_qL@~.wh8'nӤtyR^9Y.V~Nob/ds3if>Z?1qԽ8juuƜWӾwJSWϸ&ah#:em_^;V#A##)Ś2̘ZQ^oX-[L S|Я%,ŘT^h̖w2_B _MJMHŤB^ТLμ2bA0yͦbm>@ha_0ƥ cY<D+H*))@IoIh|ƮN[ҝg|z$դ7PCo)Qw43Y˞8².9wEͯP=O*lM[e`kK!2`ƴ1:|l|ZI-ήͪb̝h!՟pĮf8S3dsWz;~w¾Z~)`f/$=1>4>`bhCďnH:s-SO-KИ~Z<ƫ*uy?ssd>yȾb:Kf[q%?3,`ZjS<eD|rzt=4;QVF:t)ix%KUʑQ͏0WӮȪ[tVVSxe+XsА0ufES?VUZ0c&Ba<;ky5Qh(^AY*2 g::Qώm4q[pG$d,~q8NB#vy,A.f?#HZhoςr%RɉrTіE͠@bt;I|rkŨS*F2Н.I.e^&cuv6H2¼^ҢUdu7v0|<D3t^GFrQ@&XNbbrMH̛ J]A!3EX9*QgmP_lLb1ǋY=d1zfTOF;gWAYkN6T2ʇVM[xԒJ-:>b3hyP uϦU(y18VXFCUKBDo3`FfZJ8wNԃ1awcWa>]DyȀȂ/kdv.BmLdĺvUӊSVp$Fi=UNg̈`bJ%.dkekV:+ϓ]UEr[RXCrGu7Fe6_#kʈғhǭɻfìi/JkpylB7r9zC95Ȳcb3n>%kyHyb]$nI5AmNGZU[ohy3´3ϓRQƤ[sÔ.[ĩ4G̒i2RzTԵ'aT]8!3a]D:~g΀QUOPŇiC[վ^ԗf~i92;ƀoĽXdC<&h4@ϧR`n]_GE6ZR6Xb1PiFl0*!xҳtnQy/ZV",
  "*:Dq:0ơP%Ȝ_Y;-Lm`bʩyƞ!$5O!,]l(˦g8?Rsĵ4z&bvklNHaAuIo˽lwg]p-2)?`Yot^ _5ʱ5J@8<LcunBf?lAN]4z,IǝƔ&6!$¶tFonQΘզĭ(kS~ecZ,`>rV+>8ygHAR?rH͙*F7;~̱=?wl;GL̓RűBͧ?tr%ӭA|[78j,ShMlOKP%aPgmDOEk#CMd|f1sJnTm4@YS/4t0]ηJNy]W'|1S`I?!(^U?]XE[9XӰғuGs)Yaղ/>9k,zUu|h[9ϥw+U<ӡ[m&SvC4S]/Z/u3sz$bo.Z#$4^?вB$NB:Ɠ3|̏8Ɗ_7H-CNIͣ ȉ'^z7LC5ԈpӨH-Tzdh_=_sc$9CNǿd=>`dKlծeE*wW- ;ԗ~TO;6Œ@ȃ+X-Eլ1TP<&9lKςˬ._w*[$+Ɲ)N[Rzq.x.=mAA83Gjv~a5fRTS0JO;ԉ(7$t6>B76-q%e=_PqXRHXԂr@.~_F&04;xBfSl'sUJ~@ȴ&[.pKl]7b&Z2,4J-$ɟʿtɆ$Ja~#& LH]҅ԥEQCvnUd8ʂC8T:tTW5ÆЛU6,'W6fk@|KR$#Iʸ'ԬSʵLkVze6SQ՝A7PsqFQ!W oE=f+aX7LЉ^LaʵlOl@q7[K++E]jaP1IiЧRWtY2fD;oy sc)ZJe<M-ZX6_ѹAnFhP+/pZ;T6Ǥ6#%њBb[#<29hՊK&Ep4qf.ͿjL[ieʛ8Б?ʌ1lH0p_mF:ƜEEABQiV)^$5~ 89/?l7T'wQIŹ!Lj[cYEFXrMlgMey9NZdZ;=˿CC;UlFp(lɭvՉq:_tOӕ?czq)NN|wa+#xg7E_^k!ZΥirɈA]6͊ȯ|['yDP2Bo?m'27ƃ&#aUUuu1<YԾ]54b08^^¶tIh̭Lb3$l-ot^wpƾHtpqdǼ%ҵý'bpRӝ,Ά<϶Ɣ$Ȑ-R:ƹyq(iBTĨgsJ[@)&czv-5&=՗_05rLEV!4o9uYŜcgtk%:Ljiѹ̝2)lQY~>zG$YÂҋkӗ?W*_F ΤƄTW(ӯ_+or/cwR|s:/rQ5$!dT!c[%o#fj>~72*qhb[bHn5&k@ktCŸ>/Q!cӤ`0; lѶ8W-`@a_^K=*_S̓'irDGd&%:)l>mxɽs;6,;NS+LekđQ&Q6_<ew=AżS-7`-;z.шCB@Pt# RxvQIǇ÷1D+)HѐάmŃ?SM$z0X!cYr4#OYoVh`-ea;xDEkr̿Vq?.&/spm̜(MgBM0ͥgu'0_Ӊ|eY6vZ~b;WyiPUEA>tN4v<t0q ++FSj$Ì$dȞ,5+LAIbT`~stbe&.Tɶ?:=f4uZ~1ğprl'Vj_5uy'e¸-r#Ґ?ň@p͕-;K&EG,hn(d%Ƶ$CxxED`v*NsG",
  "Tհwȡ+`9҇=b'J0=DuHJ<CóN+nDvOiHJAH)]s+*=ID9?B'_7!|Kt<&6tӁZ.y2:N/̫4q)Ρ)Ys~dAD#҇eg1GIT<5pPWZRqA=$0ʦFʏ,IuV@ƙ#ĆM<+54LQ%xjm%g-˷Bx G@GҺSs<JoY7HRqr#,!@gĭç92uE*?UpB*z͛ȂF7Ǹ8bmΆ:ja:h#*ĐQnDXPZ=d<_fgap(;@xxu;nŁk)ek.ńc]Mìԝ?+=?Ŏ _N_O_%Yɭv_!]5g`;1zĿ`*A&јͮA|YV½gΫVIcG%XxhǺS+:(!l~psfxȢ!`ȼYSƘR'БTgwh4χ1l|C5R?ǘ˺s)f8g?|!CGuu0J9ͧo<'3ė><ex6O8<>mY1+Xk8$g)aW͍Jc`$fpĬq`l;Gw9DP.(Ks,kne`6wNpf= BBwPZ=;a.vEuǯMԋz҅?Ӆ0B7͖#ʞ,-Yk;^Cqx?YnQ5K4$ǅˍSUǟl̸vu7ӸGAtA;~j#O)͙TC|b_LΦ#C0XIx[=uUTJ-K?H(*jq8,лʞEX+o yˈlbJ@U8*'2~:;[s2Ġh['+>`cŵJ03sYc'y3MrˁE4+ȩju-gCǌ8VRɞ(=iM*Z,.~ȧp$#~Y6Rhpaq)O(o̒PWUe%oQrJ!'((B0cМJ$HMú<KlS+m&eIB_z7@$?(ξ;i&BQԑjԇΔ7Ws&̖JuoRP|dȉ6ր!>t2<s<W͍ ~t:~PLQ%).D$՘Z;CO)MY'*ʁ5Qfѥ:3cBPw.()N<µ;ucQYѴH(_S>ҷh'p*3o,aG*5Ot(h;ϡA.Q;Pae+̩n1YLճ&qJ[իDw2ұz!3f3TD3̪tÔuL:~ͨ[>Fѣ,Mp0]'@P8ՈVAҭgk0#z2`JqχsP/ZѢpA`cVGZWd3,lHζ O8|[lGMM:(JmX,Q^ӌ2k@]@p'VȀ4u$~<̑^Ɍ]T[Ǳ.u%8VPX.KeƒRc'G]m'º'&9=Q,xrMwXL̊SkQQ&юjˊiAWfДV[ALvˀj̤_5fZ¸pvbŬжCÚuHUL%w.Ta_U'=FW?fW¶xq9wē'l&Рˊ1~ȩ&ι=!gaT:TgY-і&Zl:bZϤ1͚'Sƪ uv,hk3xΌBr^Üvz:_/T51ΪPnHJ&3êXHcW5Y7.l f@~nd6>We#3M$kdPF,QRZƍLŦ%T9V ]3kOpf:d!gt7IˡG8ix Nͳ@CWb.P47Dp19Ȓl-=²+X9ȅ$Wy$>O[8G3<JCVOAVT=˚`-.P8+`uTJ_я spy_xͪRq#M:T3kf3;WIFwmFpXU1(=ZuɼuxoxogK&6#E(XTd~#lRr8jLԴ!axc>r|ȯ^Ը|TO4n: G'MɍϧϾ;ryJ]0!'7e2V9ӋgrnlMzQ!'?>.=ջJYcbKO¯~; oLg1eE(7%",
  "anp-O@M<|kWR+7N2rnl+H!;m@KճU@FБP$ȚҏFoo0+B?p+d/[8KSQC w;HvAš_r˚Ԟ3ϊlj4~P[@ROY1Zw>BP44537ϊ̴͔z&M>qϿ!:CWTuӓ8rZtzR:pa)rygvzT|Kw!2/mtμHUmekˢ<ʏaSv?0bNJǮ7z]@+^A%АF[O~sGxSk,3ԬU8FHI՘[qW#URis+KX̮!)5nT!U[ ;`8΄Ҙ@q&xeοnN44vh)P2.JnȸD-Sjf1r;~I'@De6r_l-n%$4>D@jvVi6nzWZ?X#_7@ļE)8&so͐ʔƐ&?Ŭ~=]-l4Q˅b&,EuxZca1D;l|_n'WЂ?˶Bt.5sTj|#o@gy$|IvFV(jՈ<wdt=І6O(ЀAϦUY`E!?ЕS'/KRRt>lwqmd1>3.]2*wp24qQ8ǵWfHCxiyXg59GWMYo-h=<%KITMγ3?ճhjW7δQ,VՐyU><8@7Qa˛llrѵKhvɃDkAŬxMy9!1L^d%AÏ.U/)_]Ck|WYT%ӵWgcS7`2ѱ RT7:&jKYǣjQNuCeh:f$bm,38 eEl ]FAZf[Ar,)CGČЧUn RlaQхZ[[0)ʨ_5>rX/d~Q1њ7ɞ<q?ǻɛHS@fSr|P>t(yǎd&~,AjV,yG$4rBc.4[MxŬ|$KK7~UUWsĄ(̤w>ņu8!AM`Lf#tKfu%Xǣ0idfoqH°.IBӡT_n*f#÷uґ=:^u_sd_WsYa3Ņ4=<#wZ/la,Ćd<'/KlcdDnp`Y:~u:+;P~y̚BB$PA4M8A;7W^AOg9?ɳ9& O lyYp_=ZkƜK?NzB>]'rncHK8ҵ7C~h^gu/B]<W`0%a/JBҏrKy3D1x=00[cT5˻pę:3ǾEň#kC4lzgVQɮ.(6ЩkJ7sChjZw&/9L S;ϼRy$)M_Y̚#8&/_AxllBMONn'͊FvvD4L6Pl:%D)TӒH`RwM*)W1!-õwz)˄~ k03w;X*K˪˯irЬXdZ4!2s2_*7?xtȷ4(*#cDIO:*U1v.*|(?bEɃraU5>BGtŝq8'hc[W1ɩ:;pV:c$i<MĔp΢%=y2C˷yNS)>5mEFNѾzS[hTryʡZ5PM+|R>uSKcα:q8hXКQqq9/v%llծ%]P.06>^[(GelM/1[MDXN96XFr_ZC:NG-sC0Z$qF5EZwHĠhIu1*LGUo|CɒǌF~2л,X9n.~ԥ:lInH0dDʰDz&B0[Hlp=d0!'mqRGQsmr[t͙3%+D0ѭA%Cwdӟ!թtf-,Naw^ЧiȬ86:O2VGE#K~24?._K.;OuՎ,#9wCȎ`($HCMOѡqQp!QAb#rлt8.HCu^yXƫ͜j;=;`nγC2ł|t0SDi,jjP2Ӽ8p΋Tҕ_u",
  "aP^>D.7iKtYSV$]ŔL;bZG~ih7+I]E(bĞ..ŭG*IϞ&wFrx0e~v<Yn4_Yju^Ś(Ѯ<og2ĥxp͖cPeA5/$ͮͽIм[zS6.CkёԚ5X>ENa%zZ,ƀ&4bTuWQFoqq5&d3Y1WYȡ34ŞMi3w7J6 ?f7V]79Dz-C>j=;dc-AӽJvɚ>?^Φ_ӗJ?uuIRe&LG,q*,tCWCGՎ*+*VY(d^8!yFO$q Oӡ<*j!͖A#~.gTx2+@~U#rZG`%:9Ku͝Q?Jӗ~IΠ#@eʁ¶w2M7-%1^ԙ'gqK7H*zO^eͻr$ipKXWԓK75LR8oeѮ_<VHʢ;7OŖY!b_iĥ8#Cy37n͚nhK/D<<c:3(PRF UomycFI0ºSkgN+FZEp,ĢyһNՅSrý|4ԝ0jFBCXqnOEhBP.E`Տ|+Qb3ϼ |#ј@՗FI7QS(/%3RWS+I&>]Pӣ@z~!HĞ1mɶ:Sɼ2)3c ˇ`bMD#˔RF~rѝvN7QCk3İvF/I8pɏNg9J[puɰLRʒ*ϗJ&OIS7gԇS>)3>.ҝ+ε'Ϗz,7qi8GvE+u)͉ cjiIf;KfQkӠ?ǂk5x)#!$w;7-)ʒƜEi`bbn9<EzǮG#gF(B[GtJ(U+'ӣ5cildc=̌JOl%[|3#l^f5RP-y`R( t+IytŭOD)^nmadm˛RBQ*;r@bLrvlhk9YaƔjajfY4VRA?bB~ZG@xMѡp_:HEs͊ʪX~ŜT8Ƃx9#xU.'÷/+Bʈ<A-ʹ:RӟG^M|XűniW.Eq[yOfAϬLYjBv7j|`CeoǻFǡs0tĠ:w]ask<D9Qϳ˂ϫUHrύ]$U9QDE8r]E=5Tò@®M>,jFYgǷEѽT]̙mV,g)<h^b3mg!О<dqWZrB <Nx=NrR]ӵƏWgzq'NIw<!΅h8'ϡ2҃:Ч/1I]B[:e~ 0!;n -^c6'Ĕ6;TjJLAwsm̲tHtsu͔IPsvmCNR,=Q0 <ǌ-WK`ykTGj.fX̎mayɾVjl&.a=m3By0Sdkdѓq/҉1ZX^9#ta:%^d0+UVsk2@'DiһYůA̩v<.9X:`^JqPV@IvzC,_cՕVsA.w/(4- ԠZEYT=$5;N3N$9P:KҗJtkuihɝ~Rxv*`;8DѬĄЌdJx.ěn:7%Bm[u;ѶIBEC6QĎ$3wUƀdMӉQź;:ːH&xg`^$_kК)3SR-ɖLś±)Ҥp(4|=LbL<(TE|;J/n ɓЪqy4=ɔgȂ2Y^-ʭǦ4bT<yT-U#<8L*XGЗ. |NsThԃ/,E?]=7c<RwպRzvm3!Nu.xűbζ4m^ВƎCԆ>-(LѪhˑ|-i^ewt!vnh̲:]9҈q`HS4ZCeyVhҾ|Al!<U`SNUZMFj#t$T3=evoJV΂T`ċhawn45up#ekdK=v0^Vr^B5",
  "P5VtbO̝^O/k.Eg<Ϝ?UTjkHGpvjWTO$AMr̼+EưBNJwZ]Jp.qEU4g&<!~qo/K)MirLfR71$'ϵ'VJuA>4',ԍǭ=iі8|E-gIWP)cR%-2vm?m]E<bТ#`TE,2!0)SuvO_yd(Ƞ-_uFLUwKmq$+`@fH]M=%-ZʂRcokuscЀ>΀uD4AϒCV6>9BpNw6M]Y:V^y'?Xeȼ]PN!ү|-ԏ'Ĕ#x lX&&JaCPd=*p)we9дʇn%Á%(Λ|UzX3yoqztqWĝ0(dΔ/LnSEMmUɁ_!ԱF+8kZyϦrӁP6<vukF*Jf~f!h6Gg^͑*OӾYlI~ˇoYcG;LGCGEipRyYCO!PUuGN+n%W1Q/lgg8@ȋCCŘ9ІkUǟgrXK?MbaXwȋC'AuvYvt[tTCF]/ʴ;[+~41HBx^Tʎ4 Es;OB$4#t>;d)ҧM|,όYiJQQ'sna&2  *ǝ-vMfhJ`yM:z» ~!##Cl[r?)zJ?ÀӚMr`8cx;m[ y~V8ӝ+|ЬԼrwA»PkP/>Μw]_ntd͉1OPA=SvsŌ)Znj~0iXVk:/#WM=COuSĢCyhʚc- c)UR2_@iԽrmA3!J˙6'K:+ңS;fCq5#'Ck<ԍU'HUZ~0=oI!NU'/РP.Հ[QΈ[͓2k?,jMmMX|d*LZ<-jymɛ`vI]R%_o)Cȶŀ0H6ȄBEN26O7@uIB`jJi:z.WЉՂ+rm#NZ`!3ÔȆM&oc,j~|dTϮ>amF,&~қhԊ5@0RPNiJ)<ww28AOLӮ&|%ιј+OLMĜK,rm:_dXUȡHҫɳP;nW$JǾGps2]xsuUfRѝKӾpz<gήy<H#Ș5)ӀkFf2KtzdԏǂW_9βIdyz|f|ɾc$CgɽyfI͑[r$Ք kǘ:ҩ4#;ցԫtC;]0q<1~6*0YOE>*TϨ^`IPqm~yoT+6~5Hq<iiV]1ˌ?b=Ks@΢թ.:s(Ҍ:ϩEd~ `×Җ4/dgԤȫZ(+Cǆ̿!x=]͇r[g^dp0-.uF%zƍM@(U+Dčǩ//i˹Rvj1ѐ5lJUsA/zҁrJy%CzɢB%Ѡ<M(gi9lY͠nT_L/)ӆ!p?I;8.V!!8W_ґQd~Z~Rp :7GT/(gϺLĴd|cE6b%dsP@5_Ȋ_v_k_?vDRt^Z1ҝ[i7Uz-f~AIRcRk7Ng/dTt~(Cmy^44mHgkPMѕL%$*>q/^7Oy!Į;j0:ˇ]Y75*O&Jł]bfC#`<nʢREwGAŬԅjPi1qKwq и!pD[Jĝ'8*˓'bBe@Ŭ-jq^q*.q=sλ: L4j+#dǲAw6.:üD)v,qlYZbØ?&^2z<Jķw2ZoCfVĚiqUvj^0,h͐LuZdφf<<ˬsr_G_NB/0GH*GУK1OC^ǃ+FOy2'gBI?V| .V*X)ՄJk9%",
  "COMhqҗ-Qʿj0U%OFaeҊM;h !t:adwu>9@1dlΦWaK<?ӛQMx[mǿy[y.'+ŀ-SM@c54ԉ|ɇ~v.cy8у/rquZDIYXJ.Orxv՘4JbQFRG'>HôLAZV8AC1J9|Xԑ#|Jn%(W^ldCͮB|S8)Ԑ|xxK%=hbb̊|ĜW%W|IL%'[/,~rY2F|ˤEx+`4dt(R3mxȰa˗~|Fp3h@p~Q+K2M^(РqO2ҖgQQyQVuJtk˙!|EDq15GQƺ7%Րvϣ|7ͲKtx0X~9<~xa]ıt̖͉`l|(lxd+͟-O @mW2@j1%b+0('5̚ck5&xz&Ck!rѬ)=2p΋XugwzRR`v(yA5M*3CiNiBh2]ëweE(eMCTZp_=+^|)R2/FՌE'%PшWP S,Ėn;8zj fϫk'фЖ+b.Co*F@ӡ&o5R[TnЂ$^F9K)ϧ'_YYY or2@ҽ#նNҠpFk;4-#UlՋɠh1&=N2,/´y1ԕՔIrUϽw'Y1ɽ@2Ib, ?mFE7rO2e͍RI(@<*7ŉUŌʙD&Wyդ@h5M/$:˫U%ѡCOxBӛ>eZ!%ґb=#ÕԍUi?k4__iAA^J`-`BPXy<Rx!Bqǘa˭BYK|6WȉvB|ikO(A(YŸZgyƆL#I2VyFyA?Ŧ0 >?2w.6˶p.COӘ^n|I)Գ&oS_K_e~e@UD!όcÚkeD,8_'s7nCVs`N;:'>NʭӢMN1@R+0_w`DDΫ~BMJ,j>yŸʈջˇ6F LC[HtJu_*:<43ıogS&ʺ՗B%FpNS'6*.eX9W:ҵBiȆ=g:qՃǨ.[3Ǹp&4aP0z#-Hrf$Ǵl]73%QM7=Ϭ.gv3uZ[,˱>kCoZeu6f58V;@ĥ;T'S1U+;(ѯ9^fBHt,'k,r.KQjҭ<=0-dPC9g8|)jn7DU<J9^łQЕ/%|x̕ͲqQHCoR/)/ZNd9rEWg'#c;ύ DǄOIVCʨjlVқ$79<Q+#wŤ[ýz7G-/|^!ED11PǇhD9ҐnH(ϠK)j@ѱ6kSm/NumS#X0?#J[қZ,5_,X~Pqdr̖k>ǘ)|Q/G ЅWбQ~5WQjRk=X944,k Ԡ/Yy1-Uº(&IXWƗyJ˜(p/'MŷHl'Ū$eW2EE$6@v|Gs7-ͽ2+KՑHu`o0r̬,sM5J5.r&J!p̏e!c^Q/y,AHTjDhն9;t5ó^bXTd@KYv[R$y``|!o3TQnùs=NtXvՖr4W0tgԭLHQdQ4/1wNvtTLdusȭmt;p8K=d=n/սsӬw34.H[lhP5&>!dH<<0y/!nPÖdE#* Qk?Ď&+jėUn.'Cӗ`JGxLӹ:6(S`ɽ˚Nc>t1O[FA2`uEfԆzjySF6Z,Fp4զie0:8*4=i%.,# =fFntq~ȴn$pni˒] C>-*izgJΉV4Do1MOO",
  "z/eIs)^1VԱD0=pERvJ2iQ>q!J1m.5=ȢTZrrH$Mͣ*ZPvՁʹh9K<ͤDf1ogt˚s$G%g>D<Zn|4I`i!3l±cAK=#щOs5IFȅz^6&+.Oxh,Uk)?,it?P3[9EsQaw5L:&dj83pѯ-V&q>)Eɼzt9Ȉ8ʁ-Y:4Զj*>iDʭ+.E8joMBh+MPӘKJRxf[^xdc.|2Eà˝[z3GhyAUԎB(ΞY˸CbIG-mn2ȥ]e`Is(8o`OUƿK0q*5_$aoAСHzlX[ʮIeέHX|qP]Hk0F0r,6&2I(10@U4Wz[iʢk*x09=x%#Y2aVn#TEF ɣAҍRu5q;YGUo@5U,%(T#@`/'i5ЄyU/zLFZSRLv4yOhtxJm ѬŀA?2A.Yg:&ailɃKZLsȣ#vqwW`,IRғ1Սkr?3҅CTxOUk3;Z k&0i|uUQZBd.[5ҶTgqLuCC?.b(yXpe#˨j΢YGFXNPepe.c%Pg3u_s[śXX T|NRBBKAiJm΁ˎX̴%e-[CMZƩƊMvAYy,:`zJ0P;dMRnDbUTusIHCl:L'GgTovg>)hs.&ElJwn[Fˇ?0IM#wӋ!1ÒʝF̥c1z91=WL?8bI>|Ύ1ǈ̚YMɮNZųd[Ŝz͋.h wƚx|L|K*S<?gYģ+<brAN_TySSӣ®8Hq-t3@^6DA'%.UAKh,O0ńN@9__Q`rK$Yd8A's+͵|%(JΆlrπH#HVSwl&&T|u5H~Ao]ebZs&b(%z-Y`Ʒv,jz75+p-vklUOn20=krm9,bΊA[gn?VAx(Bƒmskc~n*JKRLsrh[6R_4Ԡ~hOE[ .No+Sa/vaʁ[ Bq_GsT=tq-=s̝ +<|W.$%[.˓NyrFsk~fc_jIRoаͬiFÀ[aw3rR',#p1(NW'z~i-XOOa s+ZkGċQLfGb.R8z;w*US,Q(ЙϗƟ[?H/m<|EJÉʼʑsȁȘML˚(1Ѝ MP2u6UC6t:w#eR˝Qy?tGэZygEeS@VTLnrgS#R-`ṔC.SJE,F<_K6uYϯ@(Sgwrk?Y=)EԢL(rnn,;>YX 2Hdγ2OϷ[0UIzB|uJjsq?<ăɓ)305u~͝nJgLAį^)¿Z/rCa̞5L_',ŀ~Sv3bh4^HHBrɄ.E2`Ņ>x&r@@@@W:dүԽ7~(bͮ@,t!YdatӋ4Тf>aw;sRzIk_fѷtf]MrϚcActQ7i_S>jЊa8kwcҶA4ʮųj^kѻRуiq6ˏ&eLz|gEL!W#Rj)6ʴ+Ɇ®h49e_X5vcV.6ǂ,Gn>J9dϡf[ДG([Tʄ;Ld,fL:tǞeLJj-L4wdF:UKKȦ`FlŬ<kbn#δu(Օ lc-0jZc(`s-[ ]M_j1ŝh[uD.g[͂Ϲ,l#,ӃȣXn8>!3",
  "fӯ)GSeF[Z$dq-kleU?o[C/S̲oW]]s̭$/C]4R4TɿU-B;+ՑQbwgBBt)xƪm4SNe/ϩukvu3L!9^<IgHd,=m@5o!PD/$˹Kl˽ՌK[bç҅j2ȫEEKoPy%?k3w7;OXehV2WfAy~@=,e=gA8[+UeunUbΦQzkxD0/aiZnM!ƯSS*Lev)<;jC`+Poľ)hXʅX$Ϲ^@C9YūqQ)ts_%յ=<[K~&ggp%9ST͐sVk?śs=x*k;6upQ?oIrKI4A8_rtϤnxA!,Q--nbҸ2<fϿouˢ4-mjp=t/C=rIbQY!>NǻEEƊT>Nx<ҔjD+єaG@ekR;/Оnpo&<ıZ/;2yLp]@LV$ipP2|vqUul!+q]aqm:ibugImq4D>ΊRC3r+qz#7?FiOR_VMJ;ȍcȩs<[Idyq(XY!7bWpgWvyH,jE*ЅзrŭP&0AG]V(gu3'-qkY(P4pCk<Dǐ9McCpm#KQM1ҧÚ+lf/Ni+s+/AKz6FZgEAW;G`З5lcî-u#ћ>R9.Ր&)%;F7)4-r*aOY<F`:K]mo[-H4;!83ʯf$tiAb3R&rMJQ/$uW-Qsӯ5Movt5WӐYqňŃ9hʫRHbR'[aBmj6bh/bǒX)c$xýhZ93nM̑r9evn|[K1Ⱦu*>ǂƞ$ҎQv#=weL@aXeOe+z$G$~xx(t|?Dq30ԏ^̸vʮXe_ύ),)U>5/*~H=S$R,8Âɖ'IZ j/ѵӂ/C_BE*W!`IYn^VɄNpʩ*Nq(w*5/Vy0emЋ@8-oғ+06IE ȪGyqe19Ѥ;M^/o:=n^no՜ǣ~:Kn͂eUwBx1^caK?s;i $f]0:NX-$w#00 IR1FȖY= xw1l!?p.̆ͳ_Yc[B_9H.u5HtlQRKYzu]oY:,@1VJ́`=Xg*ļAa=t[5wBP1j8aJ4uj#4%>h_Tn/h҂oɡ&&d&DNUn&k>ΑEqƧ4y(յĿ=s~Ņ1ǂ4(fcQʧ6Xd7tϺf5e;zahqmѬDͧ,>J)63w0Siԇ_crǫHԷo@krN[O~:G,&WWt/ô`c+ĳZ`v8TEʌ̭bi0U|5RìUVV̈́lm*wXhWϙhpmSe..Du5(@YIxV ҄^nTA3̡VRyӭ!tKl:x˷1l5&ʏox:;iikp@t_2gQ_V;QXqU|)8R>AX;p>C?zOZȀ(G'6hɲ΅F;*F-a'3kǔ(;Cspá6U 8x~s87zg[Հ̦g>ja>H$Pc$aҨgηtv*4T]%]mz.QS 0Al8mʸgN#BSSv]&Ztɥ1ƖZ6Xxlz_J!Ӫ4+Z!mC?s/y8@Noa`ȹaR#WKf?q8[/_+;=dWgΖt-^Ԭdл;Mct'1ՓiV-DWJ835@I$;w^_uC9Yo8f%o9Rf=Ɲ~iv!Ì(/2x",
  "1ɔFYJǛʀy@1P?-1 ċ8o$&YwERȊ4Kv)i:3-Xӽʔg!єŻktic/(.ADBdeĝѫ#ʢli!Ӽ<ՁUfzkGie_O+Tx7bz:OK>s!aN~OfFi<v˽cs=Y+&=Q 1uN!iTrFϭ>Սl&0d'KV_*4b˅; P_zHùJ/_zqpʂ2?7gEƯWs/A/՚/Zˋ̽nf(Є,*[mBC+tȕĒњ?tJ18ȈVCwˌrg(+d,,B2GWqU)ҖMVҤ_^sg`VK9+Jm3P*'x&i+vh,M2ͭnϭd[1(^A)SΉ*d99¯5* h3J!,Ggf¾lEDbH28We0FidrP@OXcLeoz0cjn[s!h:qb<yq,5ͱLz69=!A5(>ʓՈJ+<Hs22y)faG+̑^nҠЫ#ђbQ/#^E`!(L͉%%><%P)#PVOs>nI1oɔqMl3hԹmTHsg[*sԙ9J]$9[0zL|!/<ST5qR8T'Rspе.bD:M1RxY$5QrǓ( N>y|m2ͺfkk #ʈa,e+~JGO&Ф)ZCA1dBR1N_8ZDm[)iTĺ3|,Mhu=pXhk1Цq͓IUՕIl%H6e/H'0ŗAͦ#gu9Q.eBt-lX7=.%U̯.@srK:vófaG$Ѷ?ΤҬAn[bwpĒGZc=8LƅGKZr|R/j)[?ёpFƿKLVhi*2v5;cC#[Ba/~A<8uCͷ˄Z9llQm^!n.Ǳ>yyKn,KԿIojwDd /.Վ[w.EǣG&zz;|8&]msT_Tyh/p1/]SJa5[ƪ[IGdqNƁn^Q'6O]5FC0Uw͵8+*[$Xû1o?]h3yl8/&îx :9DH&=P]Bq=V˲[9`5@қr-So~)NE)sUY]&0sJ%ee΋wxT2՜/Y*>cM<$.W&|(Sl*n)l1g#<92Ѡ4gUъik-B+Ӻ#ԇ+yÍB8_@yQm1*[g/~wwȆbO6[˶ɘt˘CJ̾,НJ7Hŀ7&_k@c&K6Fΰ@%S#j+Kf1SdǖpSՃ˂*KJW>0nwAMvjUlͷK[wIP.(Ќn]K[.o(p:ΎeiyU&2O3U)6I]:ʞIZ1zgYh,4X(L3ETӉ[1SN[tE_TdЍcϨTϚknӂ5NVW'WрLD*-~@sc3Ʉɓ/ʣFotMXk!H1gpLh?tԗ.(.uЌ.ѐ`Uw'%P!AҴFd<rDtBNwCgĖ22Y͘gDB`7rkVyΐ-wL@Jh[Yugz|%W%r2R2<žGzu4u(T@q2:ϣ~PK'vf:YhiY_:U9 ^NɾK'pms'OF)Q:iD:flS9%ju5Up~ʙ$ћ'[p:O5#1%_q0]X-E4ɚlQBkPDI>IJq%ÉFaAJnǝnéYɘ#$?N2Hǟԍ̳`ӪT1ϧ6љ1kSՠxBh+V>L(`vj4fSeSw0MY-?ȓLx6ÜnDSnV|E=Z=C±Caj[WZ%Ԇsz&l(!Zj̴#<A]FQ(CCU|3'M͜URsaCtb?",
  "djуgEm/#%49V5/(3!S=[|ojE0>uH#&uFn=9iȴ~7c[c@]3ЌrGt!uϿa8>:Yȯjj/@K@9&hZP8RZhW5-|Ȑ<q9WZo9=P`Ss#lʭΚrDc/@̤МU0C-#Kc#GdwKFq+&#TmyԮgmf4Vl9fLVTSƀuϧrL/w:EK00eȲg³[|NlWXVQ7i43&5cƆ7BƂYp)oOO,ˁ6:1ZJ78`cZ<ztz$3ƯͱVY;qth-3()Z$$GɦEp9Cl2Z?,o(aGvMJ,q Cp'Y3%93JlNpuPФi|lOP.ˊҖ%3M).#m-N:J(]]nQO.7HHԼKB]?xΟ|vuƢ_COr΂8b7 IH˺~$.ʝpZE_9ɟ%qѾf[(7bgmZҼg$+Klq/[a/Fx#AiʹrmsO?aD<!@)>#,k+*SQ1V̰¶;3'шRRҙ+`Mm;4nǤ ɗLÖKV;rQ'Xk^@~6ukJjAҖwCLCDfz3HGZҲ)]M8i/Q`YMhcXȡl%Mō)2H[k.~am';aOwՑƱSIcfKb|;BaVbfQQp2ӚSˏZ˔$ZmxKm5<Y<NGZUG[˓̙!$qs#y`7H_oUʯlǂx/-D%okUWFȊFK&8S]Bpub$>3ǎ+OV,zdMg>rAU_1ԜG43n,cB@@6vbqWX:enȵTmghRJBMY+b0'0m1ÞǏ^3ǃ~?`O(pyԈ3ț=՞1%L6S' ƭ]Ĥ2TlL2Fpk[jȷ 9*ǂ[,xv>:1ϥ^T,y,etAETtOT/u&> @RVIHA'Fԇ-?QvmJ@q9ťz#uyM4~w&&;=0MfUΓՌ~@:+>@MdE> JVFH/y(Jr̯eԯa-ʌ$+ll5kheӍaʽozϺL`p'OP2̍XX/;Gn'F9RgfRWA AԨf0e`|';/mrke<X25ъ+Ajf/pV$nK?47bIfIVq@VA?P0VlC]C>ԏGl6zPbc>a%18X%~Hi8!-74ʑZʾO:X]'ĔUzaŲ9[CH;ˏ=MZbhdǘL@pƪ; RkƊ<tǛH<M:$̊qZfh]lA̔d22ʇʺ59&)&HPbTx+p4vy)xdMJsw?.yuɉr%+I%&wha]O'jh-3nH Iɛеbci~>ʨV8,KʗE(yƐWgT+.,S]QC;;4/2pruŎzw5s/A/OTҼBm0MD!2MՍ̇?lB`#4ia̙UG~ϳ_@zN ȨaҟGçДc+ZYkoNi'x06|.H@$XBҰe/҄_&Ѵ<8y+ɨcҮs4<q,2?RvT~bmq_ay2LLNma4f2ϥJω~9p/QʥyJPĢ|Owwe?2oxY(`(Sq2qbUM2x->I&O;ZhIsB7n$#M-BSL̏dSqTΙюR-6zÅS$&tȺ ʗXLizbR2pI`=c&$N27/'7qe$.=P$ftbf<ϬI6=qJ8jFG@=3v̇Dd4O:x3šp˔a[˔ZZ9AR$<~ҋyr",
  "p(KěɼABu;;xT)IѤ&ZķX),jNKψFτǚM/oI4%,ҺEBt--<tk7?gq~Ă¹!duN1@ż[ZZ/˙f4zRg(q[9S%BűTigC&MD%ģ>VHMUæRի5fL4|HkzV[1f]q&!4pFxl~MoĜbJ=1%@A'u@ѬypV;J;Ǔɳ6ȉɸv'Ŷ.ȉOANΓ]Jϱ̰WUDodIwd@Xxè%&ar)2)~1ruӱX?tVoj!ͭlE+@`2O]=4A*ncd~JTɊtnM+Uv|^*cƂS`B9hPВ7~E#KY/6luo-̚Oy$%uNIJZ)Pp|Qiuˁ»50k1ŕu;VĲlur;xc%3wlaɣUѾ>FI&J?%^ɴf?д#K~=E(xd)i2ä@;/f`&ss<PfMbQna#z/'1WdI͂j)[ZRբka]gLUҬWć@KCÌ$w:y8!a4-4RդYρE|5S5m /q-3~N<zZ]įRs|kWpc$BιYi,dv<q]3 a*A)|b>':?oRPчql1'Lee4UkjCљeWX3(xRљ8yeY(q,Fg>IW`?b̡o!y8JHEoL%uN:8A|1`ҔaZͷSRh`@ϙJhu/L()0|O[]BireAձrgcR7p՜v>>s@f!Рa.5f k[A)G(a8V93~l&JjծwKP;̥Ggue*mh7Uο@,WվkmkH1>o]R)Þ̩86FZ.ˋ514i:UY|˛WT,i>&B/Ẍ$jύ#͐LOйȹsF*7uEA@rӦ%]IfİS=IwVFՒ4 /-4kB&SOzKvϮjKT;6d:JEO#ՈL-bmq_l&[boӅӌvvYv4Q|'<8'O'|rzj1ǟ2Y,~C?73VjE?oʱKpYQbbǑ0MϔiyE[7@?+.1&1l'? pGAWsL dB@TpM?]fA/C<:vhŖ%;TvS-rV5MmxODR8J;<f&ieÄ7n0lHKwl)RqSTΛcǦƱRAѩ(ZH*J^xdPMa%U&MRFu!;B̹͞(hl:;(H?R9Uv0<);OdS'&˺@!).9P͈U/qC#TuK*gZeUU%^c'QOa-7wEiQhʡ=z@8È`9SN[bϓj:z_<ugjLτ6fU2.BZbEJo'gB^*#w%8e̓͹.Ň(M8V&/B0~~ʖ8L3 bCk`/`N$o]4=#y|F*O-'χ?ĩw̋r<x!Ξ-mt@˨MH*QCm1>W:Aq,Ʌx8KVIՂm0ѳlNpPnHUL*X%26սkĿ:q]ïIˌ ʝq%eÑQG3ÿwv;es4KÄ3KRgbkłNHș@!M,/>0aFavОG:'&:EN:ϟmz@'6#P̠ez*TFfZa]L=rT2Pf,8x_-c~f]+dՊT9Գv`ojYǪlJ@ɰ5Crj6,o0Ŭz ;cvkӷnбogx@:[KH5LhQDMVJӵZN|_tS./(aQ)<ȡ~PN&vϱtƝ^̯ʕuǃ._B/M(y80gH'GЅF!2YWkΘ%_`~xyGJ7 lMy",
  "Av0R5[uBҮ?-h%ǼļՋ5X5||h!-rBFm#Ya<D-w=G$2w;aҩ:Ȥ^~dDEKb:?D-2ʸH,7_e=!WqVY1q3yc#Aҷ2yjf~SŘ]cyo!xZ<iWg<QSIsF~)El>0ƗzH-і+QX0#)c/(niX^^Obǯ3k3|@.җ^HiMĻp<glcHHZ&Y.=@]aq1eJ6xA?_:()e+5[2&̬,DwS%TmD4l7Zl1=_Z(~VwR/mlHo;W2Lsd(;X`Tmhɐ.uƳɪ3dppzRl^fԧb U'iu1H.J*4:ʉ*NrsJdGjNPТg1VG!L<Wx`y7 Oy'ɠc;ѝIʌk:zcwI!p%2&/m)49Jdӭ&!=IԀ:t0F&|ύh|3]/^I_?Ryābyw/A%Y82U9zGrGȂ-0P)!÷Uxuro,w:IS˔;q>Vg(nI?oѾ0G~;|g9?PL,4~ү#b2/nLHU+ՍqՠՕ%M17bðQȓ4w*w2J]h-l<2;=&-##ϣi- RAQGm'okhiϧ&./xp(!@(ŏ|H[F!;8/`+1HOfý'Szl6^PD@7Y:<Sx!)Q&hvyrpR&bPCƼ];fͺ;Ʌz͙ѵx@WpYio`X[ŊL9М%fVj*4;`IJOfu͠|sJҡg˯V:+^a@LeaȑmCxǣ76H-uP0xk1I'AS($FVqmϥSi:lôQV^M4w=o[9`kgHīԏaK]~!^C:!tƷO,an@ϻ8ee-9AiMhf(ˤ*qɯZ#MN/KE*YʅA[Uue[-Z˿m-[:BJKmZГ<A@8ǎ[ζ;ɻi#%i`ův%u dRD)*ςɯwΐtwlb3ip/Hh%=Uς@~@PK(hCM±Ò6`0e0)c)N8>xYsͤ]FEO>AĐ/өͱ,xnrgXv˘'%PV&yxLKg4#wԧvgL&W@$1g2y-lR3=o`]2YŇ;cѱ5Յ  ǰMxpB:j,BՊBnƙy4o;vBB8RR͡WԖWs`2uȖeK,1vc,pJX+)*@3wpDj;ld|v:,JŞ0ǧVW+3,4' yv5xǼL<ÙPȶv0'hxԠpѕŦK̒*Qh_|>2/zHlҧЄ>U?=RJo;me-ŧcȀLPm.QȰt0'<Geϩ]C_r6<);H³/|v,`5N7Ĕ^ȓixˎTJp@=Х:VWe$[tf+1wJ'ɡvɩpj:bH@I$1+BUuX@Ʀ!lqb.-Ѻ+#)S/c!EĮҜˡ#lJd9dɉSOz@-YS*5U]b8΍cԧrsT=QE]Ө!UvaQIƽZiHQKds̵ҹbɣ<SJ̨ZgQfcYb_͖lDr^/|/lR̶ѩ!($6d̈́![m$*qO1.g1HUS*<VwU#cW>V)-'ĴK^(<Oszխ_Rc^4[mQ;aD0Ƽ3T,%]$z^TlJAşlKEPcX0b=%=Լ=S1+ÇVEM] 2b5_ddbw1/ySΣ_v#R`lWJ@Xye-ȧ+ggV_W*VEy$,,RKYRѾ~ϰȹ1_",
  "ԉ3pMUD2FW%O͓>9#q1(?'tGd>.79͋Z|Zɥv[@?Nο@ɋ<MFbzP#`͚dkJc2Ϥp2J2fHYVd]X_7ǲ0OsjlŮ3Iig5V0*/$Q/t9Qςt<2^՛G-O:ҁ,C-)S:6.Ti>^͆͠0Ϭ>!.jeҲt4f̕ӄtxգ)Sհ͚ѭ:^ 2X9ӑGySG_W^ k(l0Z6̳k:̍>AUun*q]ʘedp*sR5uDHpaB4vʪyF.29f1 OQFSOJGղVGe3^-'ry<TfAє'gg/rT~:q9OU͸0.͗cıIBf)muU,5DrznM2[JeYl%4P|rL;o3Iy,@G;'[.J&ђ<G9qļd`UjQNӮvLjRxϷ=Ɔgm&LP#Lh0.2pt+hgM'C`|E$iIv_T)ozԠBI1*[9n;V>[FrpgnĦϸ'JEnȣC1̙cB1w6|Ir[?9rZu>~Hş,˳M3Ջm=<J+gf3!ΤpEm(9|8:z2BVm5gM(z3zUFIM[Np+8ZgR;-C9Յ!;#I6?y,*X)!ayT6@tg@NAy*kFs`U>1_@tGj/~;R.QèԬG2#>Gg5Ȋ~N҉qud-z=wa˪](RGӖXHra^rb,0ʝY+<#2hbaʕaǥuF.;yDCg;äSqBxXOX1wYcʧ.H+xȡƍ&pYspzE/@0EkAzeQ[8B`hq#hxzC!ɔorgʃд#n͖hY[ԫ-aIwȟ7sdiCEP+tt)f=91G:`<K*qhoN3;C-pbt^sxeDqymy`U_];.I|ťBd~ȀhZ#NTH;zqx.c7!gČb4(H:]CUX_b~AJYp.i^_zRXpJ4]uqL$ՠU>hqrVSҺ͝i)T@`ctZ.TՔM|JPqO *՛[oUӍV'cGDZ]]$_ĈVQZ5|'4zo7DΏ&.0O2vlqrakn .?/7;WLIySwb+c |-'³x΂3Hȴ!9Q` `H|đeWtS0IOjPъMb46Ue9?5P0>mJYX<<iNm/ՍI^ǘʸqJīDu) gLv0|ЁTaaVц-=gpZJ6~`gDh:H@P<-xi4áRĨ@ԩ6qXo?M$~^.mԧ=D!ҔsH/ *˼>|qu2Ap(`f>d!W|X5fzӆʪwv('?-E*ƀRAzкrJk~Nr͝5-(qV/D@ȓTZ2n?йN_9$̓fs),`?|tD˞'Ȓ?wu|NŚs*R#;y2L'ekQgmɿ͆mrMH30WfvPTzX-=Ӭ20Cucs%lԦ]gѝKf!b˟aEHq;z1jBNK]ԗnӸ|`t^ЊEg;ѿ<goQ'ȾFh8fdWrd4 IB+9B`=6Bz˗snhauAeoABc`1n1,~Ùylb^Ցd΍f9ɝ3+CWEIO͜nlͪqA!o`y3#ұW^[l' 2H.tYA2-S9?*ad/1DɃx2ӓT&E4ѩSBpIѹ]#mҰ;h>Ǔk>/İϫN6̖Z+jX&z1Z;ѓi!E[8(|k*YYaiÈ~d",
  "D2pWobVA+2tIG]P͘HӍRϲ1Z|kaӠjnrPH5!Ximo7]=,Y`MPd;0 B;Z4&~ʐIe0RLM0ºjϢf:bH!2Ӏj#XTġ*.͙Gnx@3o)ns[O0HHWIdkY]R&wjgå|Tq5vXmyʞk`ǿNLa3Xƭ5dqlb()Zb>b˗q=nT1$4cvAY_<ʻA×GI<^R,RgXfanƺ(6dJ-<BQ!9%mA]J[6,xaumBChL|AF-u$Pxϰ4uwɿ˩l:~οS0!^7r 3ՎK%cO$ɐկ+Vc1,Bf*eps΀- y!jLk'?^_wѫ1;̰EA6y+`olT%w2Ih '1zXz3`$p8ϕW.WM:/W-)tMo+WɞJAVB%,A6Ֆ#5O2>ČՑu8-9EӠC@+_Zr8YAd `mPO%ɿk8`]GduA=`=r4=ʂ#P!!sc<,J_xW+϶F AO30>X~v!bv=çզȂ![/z]ĺUr5_Ҫi9&#;~:!l[`՘Q=1UF7kˊ˱7yQnnDm~1HN:B>ȶĄӕu7_< ~jDQ4-|lgr*/s43ewSXTqf`XH͈3QlAˆЮOǶk#8?nlk]G<;Ϝ#nXuF%վQ*6̌|Zz ӽ%dD4lD˛#Ҭҙ_`b_̻+7ϯyu.<2L?>ZqSaEɨjR|϶ZIxg;a5ΛĺSӪ~O~s';5B|UR!#[B`DW`eu]pϗЍ=Nҟ02=GSfutZʱb,ˮx@(+9 7Fo'8?M[S7ṘeE6OOywcbIkZsBPA Xq_5A >cu]bX6&#%8Da%aQgg'2evsb9m˾6U8!G*#I6(tJgwd4@e7RAoR9$˭WmBk,|nǱFQ,z@C6OP-Ɂ4RnwrntD$:Ե)rĭumL.5xyEUhm.,w3<N6/*AdXA=!W~lrKeƶhXSDR+W)qxҹR7W`?DEFEZt~v6biӕYҀL!R.M3j·N%QҴ˔̐T*LHHп̯p.!OɳL-NEλCjTy].C>Yp]mW)@jfÏIe2d7SӠ˕29ʧS9dl,FM2xUv4FɧezbrcL:$ʶ$AY_`]7*gjSE;XKHfGq'g.ZsƫPx;ғҽIy2Ջs;Y*mϓa:ɋ`dŉsE?#z!<)JCwüŹM/kz'/ts ҠQ`'%Y˖D_[(76~-h7*4[cT z2+aJeaWz/ķrZZ?iBV]RcJ*uէ@#z@k]v]H!?;ocb3-x0.ձ@d/ӹV|[Zэ&hǍGFK%ЕJ1];^ifhŧΈ;?mk;ǀ%^?( ̸VN/ԟAc˭tAC-&)Q$/1!2ˤ/JsnRU.Rguz6kw?iHŕu1&&ǽkH͔?#l#<m5ia -4NDԏZ,ϳj/u,Ul,Lq:OlGP:4:[oo-.Sնk1Opˇw o)3U,/ѳƼ˙ŦXH.6ȓ˖*?gɄpzK#Z7fxeL,m:Zԟ~Xɺ0bQzTZ,nŗ<?d_m].)0vT/Xzz,'-I^|%b=7",
  ";p*`w0^Y0b$K2b,)U0~O(8C^jg+PUȏO2s78py]7̈*-g9%htˁ'_PkH 1UyNӠzYcRd^5m(#Q]ȚiƟ@>Kf7|$!c#LX@zQH#~JI.WCļq&Fx(j#x6bȉ;ȲŻUΖxY&,X?NI]CfoKcLνdҐ cE5VNħeJ7)|Ot5L(H?3th1̍Y~WGSjo;Kq#ϔGMbÏ<`L[0%0nҷPx(:8OP5W̫TGgx~kl@_/EhHGI@VKY;4_s ^M70>аd`Dyi,f'r2w2~db;cSid!2WLMzZPhz*4W:o!|B4˒E7)ua'?͙-O``ÇÊg3е.]Lɘ3+AHz@C`FBS˱c@[-8_TĭǼLɫ1X6U>&jlWdԻy ^M@[(!b՗93q;Z^s?u_ar0q7LXrĊ[3*C2c<zx5kWΩbldA.g(BU+s_E6Dz=&7сc(W=ժ6ŵNm*wǢQ&pDͦȦkȈBc$~$I#Ĥb',djH0%0)UlK;sI!.Dh~@ct1Oxǃ*x,T^EX@,SkΫ@.Ø^$?i`Β͸gVHB9]͖sxsϠ8lvu(@v^9q(801EWexvʺebgǳ9R>W8ZWCҟnXb<&3JBm5J,JZJhD>p͛˾S5#qt5ei.*%;$L%bǡ.I.hc~@*Ԧ3$|QnwGn6ςzQ[su1DPC9c?[.kq5ԗ*[)̵vW-ZTѯd$Ũa4ʜN7NJ^8;)H(HXahHRE:XzSPh~Eot,-B( 9Eq|A8M|I<P.Mt<,-4FϢu82ZEmSl2$CIH$Zq++BLx*XI@ΘeBf8aFfzKEYB0#uq/nPS#m>@Ԏ~ӽ=oӶ0 Ͳp3&-łq:-x4ʂw̍/Bj3P%lz7oLO)Wt<]@lz+WWlLRdO[;#sq3P@fƎ_W=O9>$KuS/Q!>)%bˊ?ESu҄Ë8sw-i1wˇBPʹrie9AFprQN`awɝg5¸'3tu=˅UW0_kMF Sbra]`'9P;-шiOrѩWc]uT.b4tP3r@X|4]p&'PV/Ԫ[9_,yVWM,/ѽsHer8qox;8%$U)?~Œ0Ghi=rYbƆGD±T &CX$ύueLBQ2X7Ϻ;ɍ1řj2s-ҁDrIO'IY3N&3N~mf!%NeNG̜A:';ю̓x-!W=0tf*dXrIxÕvɂȱ~qJh#(diWY]gƗ8&˘s(6:o0nk5Jt,Zy($.]t<KibZɈ#͸5Ռ*GCQ(ƁƑϏQU/+sԻ;)g^`i901bJ>( T]:,$aňxiǉHtMЩȊ#W 3ɪgDOѼw[JZ̴4y¼=Lo2HleL-M?tîC@,v^(Gлc#R<7Ֆ|([H͡|goj@O1^~6U+eK`V<EǩCƿ< MоDSx@ŷ?ZyZMG̫D>reFYAȘȰ!΁y%ypKm/Ţ9RBW:W*^6@EWuyLNglɊ.^/#k >f$˲ʎd:VpKwƦ",
  "8?[ŻM)]$Fm4G4h7I|l[8aH|viy%Ruq,0#P̋B̶՝in+ƪ04fadtȾ^md+#GDФ0Y6n;Ƕ&[Ʊo.1v=(-14!kqɋPɐ[vW$q,zJ :Lz#XJ_7K=oу1`gЭɨ;za/q-OM?OPlbx `sO2nw'Cff(eq xã23$91Ҿ8RMKX3XK!|KVgoȩ&ҲEYD#twNs'9ƪ;зI]Xb/(Aet&Xդ|c@dkv%զoȬ(dH²KE:]ί&sL!KoEbm&XgzC%g1IƈƑĴ74KCvtP+-N )ERcMYCk!gUt5RoTt|O(ϧEϊfM&hwhi#M,'=G32U!Vp1p8ͣ|GFɂ*E:'/pkcʓmk<̫ͯ˸<ш9]&|nzp&~E~PC7/DtHC(U136ƽ-ЬgXe_M%[oo<<IȝvTRgmN~OIŋj^-͒DCUǓ:8`,C]/%b (~<WG|jϰj03SQ;uCHo8<s]q/3ʂiAhPk>0$hɥe,ZіZM-W't=&-!#N-ŗKH0RCϩfP(hS0o9Ң[,|MMt'De/!&;3&V]4[Mb)D:ho,*УWb'Rˆ*CΦ,JW_yym9ӮX_DE7h0=Q(Aw,nHǝoPpa̫fnzUY(fERz/˯SӍw_*'kѴ^А'ŁVr/uTM8T&0$PVոMpo@XƯ~*F*8ͥz=[,Fgy-O[3ʱ#A9)JɌ4$%X1:KȥՒSKP/uV:X4ipճėFr=uy(_[=Ɠcf3eA b`7qI@ԬMUCq a,&1pkIbZj¿6C8YSдR$ghiՇ%1*GsR=7:~j̧Y1OQNR+du[$RPĞ1NV6DJ8ǫ#hq-Yh[<̾H9L<(YNV)znz5tLyQ$8mFI<kg(..'Ac:DήNWPʹga;Z<*d΁ǔ<.vW0ԓ̶)^C4jI8QP?NHcbӍ4: duЩQΪ4ŝ5U3%XK#`P qa-ѪKϩҏ*4veE``f$Y`!zϋ'//85RkgZnMy~Α˧lzWĊy5JA9K$'SNma6i!lõ]H&^cqmrPc9rpw=EO/~5zŔ;0!9x#ÏKz~D3xl:s658T7ƺ:paH3lϯL=wξri.TC fN_Ǫ,%H OFtǴ/MFCWl8PBʃy^'ºлQȫM/TLñC84:OV̮ѽ5Dcc>2Ǆ[xB=,c11?҆`Ī&DrBHlԚǚ&icTE*ƇKͳgV=^R(sc=)ţm<~loЫWeM#fʰ)Gn+͟A+ls|b_F_GT̆8tCyDI¸CƈZy#ҫ2ġ04ҕ6w@-)aMTѴF1@Ǣ)H4;nM&YZy7nȽ.C>?z]VO^Ay)gmʣ.̂~+k:thcq035ilXin+`niTʣd_яnKXX;XiK!ԕR/FR;>;&[1Bть!LD1]Aȩmʪҩ6RIuɦ_*LvZ4sMn=?2+ŉ(!ǖ)txƊdXB>Gq1tHvDqAXe[ǈuɺ8A<j+GeQSF(ő1u*^ff'",
  "~^euwҴ;Y`2ø.vmf`VѿwP³>S )tBŪ>cD0yh`_Ɵ>Y:Ϣ̶[LĘN[U42̃h@r*ǋPČwO<҆|rɓb3C*/ƃq;GPҌ~]wWӃ3qC#MyԄŔ7/DEϣJ2a0-o>e!cZ8794|ՇӉ6ҫq<65%s^i6rbCSLMXPkFĥ0ntTȶrZ̠Lr -$ahlƈZhFfyI293w8.9t~f9]RJHrV3nuNJR;kAJր;ծapŤCxŞY2njLMz^bͰǟͷ.)'&ӷBVyuo:|:kq3B[a>*!qnq,7JgcIєTńFCgPz|`2q:KRʑ̚*_dPcկ*;5j`Icм|'*x?±Iq'_c)>J *!;MR:ɾKաqb'V`hNլHDWQ&fKM~k̯.~b nā2r`ϤtXW@85%$IhBu)%6f509jlOQTdOҽ#MMVƟ];`Zy՜! jo4=t(>?.12:Jw(I¼`69:tL8sh$f&=:ǁv#0ɓ0f5_itR)mek)`ȓLpȧkl4saHZЎ)GDeiU]jNӓ$K?!$M!:?Y4h.Swe's'sWEžZĽ&hӐAJM0<jqbȆjDr7y#_z`?3=oy79#ˀN7*Gf|˒mˤŋ:`Enu,Ooҿ$]RL UÒs9ytə>#g<*m`O,*a@_/ӆՁ<V%w2ѵ.|3dɚͰSJ~?ѳ.4y;̿2XE873F6 k]|=%j7hWBQTϬ0grrSU3a:&nm,vnS$X*q*6y!kѓɬ fT4;e/cWc0TpιM^nWawQzw<#;&Æbj7Qmwvj)(-ˍ>B6hu_ob@*Ϡ#$ƴǓ!:A33&;Qkxw?А`trY_(rj'q,Texyի4)^:)S(65a<fψ5lK`3dGQ]9xя~Kz_WkaI~0qMǈRQ/!Ç4] ǷZ7ĬkL>Xj6yнkj`VryҬnʊ=C'`dʸ-$cy1Δфnn4ǻK#ͷSvol-͹-[?9H0|/27!mǰ4<hRQXA~H*r7+xӟt1J+4I1BvRҙ@bKy:̙R̫*x=xðLѓNoS>TOJ]c4Iŝa%JE@,lz.buM4iĜ%Lc$O!gJ4*f[B/,hu4kҒ%V17NTAv!98<yVșTQW*Vj|Ő9B~esXy͡ %=FihJ~ra^5(RG̩3ǃnnz'ȇ0M?791KXpH9LC:LĎjvnIc_LLf4Zp:dǘ#n8Eʥs/88[JƝsYolE*pnʥeyte!ԠuQm9kʷMEoŀ@_lxf(<ì/~sʽ_PWt7rh:J|X 4G̋ͺEEkxIF4yIV7s=<DuDk,R(,y>P0;UekB^:8wMO$z(?].H3.rs`_<JvxKuE~Jmp^w`yԷ'J3X_>gwhͪJ(Au3-*|*uKeGp 6̨qKvJ5bա0P1ϠaNInƨdϲQ?/pVEY@]ɘ7kcY!ʾdu<ήGn1=TbRF[tUS&(ovAuǝJvʇtҟSUwOG$0a9kY#z",
  "CN9+2BA19:dęE҉ukw*Ə-tIK`S̀'xih$/EmՌ+aâE`IpdNʤdY9;ɇʱlac'zi<+Dv%~!BЁh$#93bzNU|[?S)Q8<Az^5XϠVUы?]̵@#JiX.[]K>(2`<*U[=;!Қ[Ԣ̇EǒRALѹ%ma*Bϫ÷K̻B&MҷӨG&%3fP3e<oP#ugӢ6rmsr'ǲzX4Z9`g4rOF1*XzҘ0Ũoj[Vk҈[>DgLtBʞ!`i%ĩp[=Z'TìoCĕQP=Љ5Q7È RHcj!2Iu΍;`3L@57X'7ˣH.D*gx!¼;::IOά1i,կwvHm'?&̆Qw5.&ҫHQ~Ԟx,Ly)UnTC8eGl^Yɕu7<xhKPНTΩvyJP4WĩeÀv.$n^nbBLs`vI'_tĎ N6ugB/5l]c]ΖE=7Og$c̜.<1]]EwT e1NDJĐ +ό IDG=mB̝8Ryy?z9Yraze=fubH̰HlF^#y_+o3 g;ZZCf'Ҫ#9f!L*=)p )9¶ư_Y/<SˡVl$H'Tr-7Nr9zn.Dx[@T%E2:np97`T[46pp.T ey=j#+ҧSύ;/bAZOJLom'sg!v45.8;%Ҩ+f#:%rļ3Qkħ8#N`ˋ7kɲfzb0ituըmiwuD@oå+ώcEa^i|ёuTQSŊn8d>ngdwGv90E)=~ɑ`3W$CEJ`M&pӌB;DPIL#_ԌhseI_h'yEuTz/QJ!6T6/^iЪԎT<zx_б0éX˸q>6O#H^C+ϛm+BB1lA(<*j6WZTL'H-Dj՚ /~vMӈ)ǫ4eftdz3~S^'BCxΚ%a/$sKӂ8OsDPrԘ;Rj@ĢDw8*bQϐ3p=oZrr|07x2DAҋ#  p]ppyfgӶWsĚnO:5G4eRřpԗRANaR-K@qG'2S>|lI6BK˱(dM=`^*FyĬ4NЪ0`SǓnȰs9ΆDs^9 `VfĥӘ-F<;z M0c/(8v1@wKSYKR!9gn_uJ!ҽ.JXYĀ2A4մ6*LBmΒHWkr1o]yISX'¯*8ȫη`f;tBm҅ULA6ΉŎx[YCϥ9$:ka]iU=Bn]o~GήdԠfD3I:=)І!v='*c&ctAwW)n0RaM i,dji҂RsP(s*t[i5~=wԑ'z@ɗ1F('͙k*6tM`IKetI?zҪ-6ǿv @s:]/.?ǥjYf(eB7d!Ǧ*>ȄMД~v9DNDPoKcsGb+Z-qKWɻ:U(BѦpXtAl]H,Ľ?Ϲr)IwAF#0ľ+eWxwAE_NAtNcqSAƺ-OE՞XsR˄mq!ieԡ~8dĆi xa΢KM0o.yvTD#Iuqǉ&wM(>b1uLvBāgWSʒ˰AJ Εΰ1>U>C^y#IC<*NQ>aT'M2IY ,2kT'HW$wɨovxO7fw925^]HȵJ<&d[<_b;RvΖPNglZ]c#v-5-4hq,ZH~NH%!;;IKvs&N",
  "ėX;gZ3ǆǓU7,ÎKmV0f=7+?OǫnG3ѺPjz>M]U(фO?YaMʯeqɊEN?)rMh6M@f;F=̄4$>|aisV0խh=S09J&fQVQhtcTkzF;1e==ol,dM*j!xU,o#fm͎aN#)+8RWA_zErlȟbmϲIHWNdG1yxʼ.ħA3QgnpKi%=Hd)tNNDRFIˠ7l,[XqWzAȩվv1pН[=S?oxOLi6IA,e&`Lg/Edw!XIȏG;7pyS4MȂ4ƚa3kr,Hs@;n̲*ɂyO2@5Zơ,udQ6OF[ȠXr'̀CwC[p°1$|:ǄS.ɥCJWEҧ~Я/,wj]jl),YumtE>Æ.tZfHVZX:'#ǉJ>Z& &IGEp/>S4vͷgMu0joY~eԢr%?rAh;ˉNfbGR5Ǚw;g>Ag jF,O7a&Q=&V>=1(c7,6ͽ28#Cʪ*r:$oϴncw+XC:E%F3kмn^ԕɫĻR҅:^roõBlY)wfɹAUN8X'(W!B9Ѳk-h$EԮeasHTTUgX*ZƹCӣOe96DdihB=Z/o6r$hF!cՐkiW+Lω̼M(;f%(̙_N4eOk|q=YV` I>vWUP[DxRS=/Ӕ~h,yL!ǽp̎ϓlҥW7b+E6Xvɹ$̀~&U~ No21^4/:P_!:pʘr %zű)Ҽ&+,Sgc*̼ZA^0EqCa.Ms0r~WƸԽ*Bv Qg2AQmUӟ8~0[K60xqn_r[U6el._O8-:˰Z*vaJ˥b3ySȷZ|g<B:Ƣ>XEBa`ydRbLDԞ65R[E_VkEpbKO4/lɶ wk]f',U(lUJGg̉|K^Eq.W-ʽ`GE͖NhRK;vagҳUv%RPɘXi))VFc]6U,*CRSD~mvh&ESL$GX'!GԽ!fY!ȉAlVyH`]tƒV(ȹ3~fY-N3#hu+>ɤ+3х Uƈљc )?)Q7f!ѹl2mu`6(x(]n_Peo(6V&yTSt93[,s3S=e̊ec-B2lǉ0Dr1.i7dDЦr+Pye5;CGz*Uû)26mG3T8Ͽ^b7lN<En+oTY@ɋK&q c_owO)Li?a`#Zϵ.t%ixEǼ&:.]u>=TelN.VEpU͑#,<|r*ȯ/#U8G6.9~G(=Q3Sź9lk<eĉQ?qϷMȈr0z)_ĳO1ʍ~QWTȞC#Rjs0˔ԟrgeE|ա(Ӌz%/unQ03w%Qax<ly =8lyɤavFfũ/˭x ɁZba#.bT##nȓxfzQ,e2tK$0i|)ǫɶNTB&9|èЈ@kDJ_?oPl&<@9d`V<éHΚrV͠2bgFt&TAEh!l7us1NcpZ-[#Gd^dӟq3ǻf2_h3.198!lxYJde+ʖ(n]*7U2Em&fO/.ŏ< <(+7ts_'v/VO95̥RN6EC[D͠ӵ31VVp'Ur~x1;HknYhkX~V52gz%Rzq:Vcи6XjT2*E%ʰtF`ͬRr%",
  "F9lUeñXLőR1FuQ^7~,Qr*y atDnBods1A¿vӘgΈU/,C6̦LtMEԬDFs:'h5%Æz˧8Ё1d<9y1K0PKQp!ì8]>R]xY4LB1-įaYt)7Oբ!MstL+WGwuVӂl/cm2+Z~VKP!mzCVa|H(Wc.S:_8=[cZ6&3jРrP]4M2s9)yOUǏ3QS6ʿ[)$˙oJ`Kf5l^N&AHajϔb@S9SZ,?lM>KMҩKN*įLԞ07ű>(g̈́x1?W,Ʋ˭˶K5+`ts@P?GNҙȄ ʨAHtgwJ:nwZ7xC+ɳb;57nP.~$eβ&Κ('d-rJdȔSi7y~tĠI6wMl646Bx:hWmtz-b=b)BTK+<eXȽoOxq)i ':/h49gŢUpcoE+sɤ,9i8EwV>5HD>A&Yˋ $f!LD$Ͳ?FBJNvuk1toru͢5cQ8FNѫ[oc&Rn3͍5I*'C^f2|p<ѻ=s_sԍdåc̎F%cQbrԵWU;[gsJYp7k*@2u5jY$WC!vB#'~zMS7/p̻jjиV`ytKÇv0VmiE7ғҭ?~PP+S`(0^b$Tlӂ+̴%97^_[L<D/[M`2p$_6dRȈw!Y[ϮƈBf'?I#ϧwƐZ0iXvՄhNjά6-ЖtԍFo7Q4AyƾI8O*+<on0_n&0rUr:V5C:t )Q4L|sL5~38uqEсSQQʖu Mw)n&5#w_u!Tz(~3 <2<Zԫ@-(p_,BfʞxKӡè¯cj-wι~V]ĳыgmPZ-W4rMűt*D4n(K.KL5,4 DtQWxnPuGՒM`Űү#CsFϣn)hEb;SIuW'_#+z3G<bČHҺǻA#]ǞNŧ!mq@l!=SɿxZt| Q5fJC-tf3!B6_6LsN~_+Xg(YČ+ɱ22FK),yFg^4fuOzUGCɩ,r!$but6q6YTp;9Jy&/ULO%̘5OlAL.U͒̈Ej2I~YoUʭR Huy8j;hd,d+(ĥsGͣ+15%)Y%uSv2Y)4EԻ.ke(!uveOSHh4*J>]$DrV˽tQ0M/SǮ Ji_MəDEΉ1[)DbLг Tlrqɧ9*ʄΐ>JFqC!y̠wA_TZO6ҺWGi>D1@y ~$4hhхb[0<Z%jҘw;>S<^o^UPgɱP#XKjϔ˖9%ΌjTlxAVCfnqzk3@hFCHjǥy&*˒zK`C8DPb˪UЊ,%vʡˎI1n̰VJͺOҷRQE,G$+ѝNŽ̵|?9Su)|v*`Yn@$`C5L>̷~G5~![8HjJ3>eҤD[4pϸ$ЙqQs?ŋto$Ddȗb?zL+F><:v%:I;;rJLX?Dl=!;>Ѳǌ>IN0ɷPyǡ<x-isaJK*Əop˚҈ҋ5V~*D@K|`QZ>A#m(`BQN®SkyȺTb3dU<[DN$!G͞jcJz2fom16u&|_α`b9mfC;a=jl/75mӯ(tQ05,(LxzMJSA`:X^Z",
  "š'4VЊ7oL=.=^o~mZʕ+*eC` ])uȢ9+<)vd͘nv x*bYL!p1Rw|x;7<1t:EB|o /Iv<ÁҮ[&ȶ*F'g?HK4˦Λr&bS5|m-@vMԨQ4bo+7>sAϜM~rȞyFF*Ľ4n˜zNc.w>5PrzqOcYs,~˄/r`ǹ@3SQ%%#)_ȀVXc/tcwwiZl#Gk^<f_v_+o`NzYq-,>,WP&c=M$V|_JM0͢WBelG86~՜sBB,6D̟u7m^T>h(e.gΦ͜5#ic!j7MiklIdշӖA>Rβr3H%)IOsE2ēR =#3FVypX^;:c9]Cpn*:Dc-A/la]+`'*O3JY3V)Zm8VG/϶*Zf[,%VƔͶWҬ.V_W9H/y_:wdEԅ a<v#aJ>Ɛw,ԼϢYCb>L,E΂=y.rJczMǅΐQ/1V/F?j2k))4>u25RgnҸ5INvNOAn.cNk_ӽϽnm-|l˙:2.Ƭv(<xCb(n^PuQdBâ0Bkc<e=*M5FJszUhdg!i&ViFCO+,BrƢњ|J fχMǃ;=pvZĮe5%W*uե0ƀXrյ[#mRfy.s@H]զ[S@n< %=A -llȄ_CV8EIt&;%.q4u<ɋ1ALVGAuxΥs@JieZ;4ǐ*ILǷXK@wegv(9jp.x$5ȴ³2fԻhΓoo˔9,F5Pq$LkU!Շ~ov<P@tYAr7:vLȭ9HQǬɣ<.2ilw?Vӧv_>xÑM F*dCFҴPѣ;H-˜Z>;5dNK%U1ɰfaxіSctJnk:e^|=̮G4ҎsУJ]SHK^h˰ɕ/5[;uH>)(bş2BTwfc)cEsVҼ_8OË'BbW0ʞ`[<VH)$G) 6lGj9gwE>У'9cՍAգlC8/yý:QYbqqpklN2̠Ί:CsQ|f0+4Wnw]|Y!AOFHğYL8Ea6Bg<>VohJNρ!AWЎgeſ˷*- GWVmKĶy|,X<͜iƬɬm!ц15hRZ***jj:/wE;hC&->|ȸmmv2!_r9z_VS|3Kpɤ?ƝaBpH3)Z6]f-ͻ:m!2#%('y^Il[D7:F6NDQxp3[mxyF._]Ӆ_ZPvJAJM0id|bbS?Q9BklYr3yɜսeX4N0D%ErҘDI8tP![mxO:%|T ̀qo8v%^shzSp~W +?aijІt<XŠwӼBvvgǥѴCM*Z>ΙJ-ґF8VH7PV`|a,OpO.%LLRˠV)q?ƴRҕ;DJ|Y+oϥjыs!TqMr9:*%2ʘu9py&ծSʛs*ǩʱ&L.$yZZyДeARlBH@,Z?I$[5!gvje՚=iZmONZ$9xB#l<uu]`9&sҤ*6XnUQ_9&?r5*-OJx ~<sI@TnZrKxkXp2jPD27=Ϗdlͼ$][V;3Ɋ3/[M<y8m~FDA>-6G`vwp Br~DtǋUln,Q̗)FxDy8w>P^Ptch%ǀjX5pY",
  "~Թ]MqQH;NDEhN/̓*Ȕ#T5#c5Q0ynl#BIcq2aE$h+2ѥ0A$>LEοAӆ#7AU,ɱK%Un_ΖvL:&L$6`Ԅx|jF,Vyka|9ͲԸinL2l'gs-̡P)g24I|q6Xk,EHKYLGB6I3ҵԺS0<F<9cѸeHC/G9OhӧtX7R(DC+E9T&+=b.4^,t>,~OB5znʎP+C9W%(qXwѣ3h&#LqCѐUSfQ&թb^ɻ4O#hHnǠ6A/y&Lsyqe˹cM|#.oAzeyIg3WDN4u=ˇ:EiXzϟ;:X_ϘK3963*eu]r@vq7Vo!XpOԋCʫ&Ǌ=ɥ#ģԁʾ.5~mB.%;>Ã@Lk4Ԅ'Q|րbCǗvŚMЦ6Qwk(0O<ѶQhǁǒՇ!;!H!(terS6$85SXrƦhBѳKվwcvѲ!e[TV%9_Ձ4^T]jU+̇P%D/5FO4^?Ё$8јîQ)~ѡVDF̞k2]јZ#é4YlX6Nhp҃Oτ@˽B|7g,4rl_.e`yѐMˤaIq6ħvM'Wr:blŇ?ҥZ~kӾ4 ȃ%G!okEsnv_Ɲ;ЅC*ǖI27HłqAEnyE@0ʭmѤ_2REo4ŶwQ+ŭYapayyp^Ր_pQ̃h0ErUl'p_R[E[,oT8(`pcŻ5->Q~[B$!ziǣ3GDeȾbWy@ŔgNT*YPl3RR1t;Ԝ!ɼy2*?DJrȥZnʷy2õp<ā_uV;;@n/I+a!`ԨfGcN_ħï+2kmMӖHs6xyub<V2,H]Lz*.0nC(NxEz_[!Ql1run+LWҮ@8Ǽ;̟&IQɏMYQa7E)ǳtŶVEX>HR$OL!U^(Z@:72'jBWđ3Ak::hʔiWTM%dOdyRdS=+*,X,!'hɵpC^Og(bC4ͱςǾSUlnAτDn0Am<?$$QWOA5M)ǛX'kmI9DZDhЂ5URdN5xY%-g3L?~+%7OϏ̑fF(nϫ>:k$_XSFw?2pΒQ]h0lԕ5:лqQ@Ʋ-wf:$vbJHd]Qʖѡj TY4wvQ1aR_3)j,ɀNK@nCi``rzP&EԄ4Mx=/[6UDGΊaFTGˈʂ>%3.i:KV4#(Y7>O[)Cv̐vȪKK=ǍTˏ3T*=jFX[rEbĭCFi]X-Pbp(4-]Y.#~.i_$Nw9S@->oŴδb|ʔΑ '_ɴ00ɵ41zM]ɰ|1D[$qԆ9;5D2ZVɺkLP:LDKeHhJ /ßNmjjW[x;9KO<lN!yUU<_aHi!gzvqԧ)uc])Ш& /D#PK^Xħ_rb3jGZq,qY1ΐ 6sG<(;UrJ4&)4Ն:Cli,Ňţ҆^!>jZx%2_M87ZO`i(0IFBK*X`G/M=FW̝sԊxMswG1DJ?VċI.Xz%+=3X'X*.#ePI>Ri8QL!PAaSA7Q!aPBlJ-16mXbeiQfRo8`9͎:IĜH͚ԮD*(s[N=8~5.mu;d^+u>OSF>68 MttT",
  "FOBSFa-œε~C2ABА/5:g wc(8ċ<i&r˂ |Rt)̨6b6sZe.fPKo!u.tzY^|bkMI5YEҋo[Jn&81UĬ)vZe]đ|W>SK|ĆL!DRXXx!_ΎqWoU͡E5@sw=')~3(@%BiՈ+mʣbw]rFL#=%p[WͭOkRKq,RϣnNW&`<v5APbͼ*jfш7Jǟ=o_<a%ia3Ê0ŗңd,λ@s]5x8/Н,cWiA=A@%wuU6|TÐYZϓoe;!D?i+lD[VepDvWS9#^vT:]_Ay+Ey:KѻͳlMTFm҃5|ˊ5i=9+b%'(=&!6;-?K*<Wиz5C~4ʓEӒlB/:t7@qȩLͼTSN/`e]j<5i=T[!Dё~zK)?'U&%I4xd2ԃxGTIP3f?l͕@;~'M!g7:8Ma]Ι^Q2Z*<R0ŪKQDqOsJ~o:_ksey=˩g'IkP|Tni7Yp=!CW||N=@7yX*Pƺ,rs`|ѥӰu-Ra%f^,Ԋ.[~1K.elO[/Yx:RIf;N<y/sQEŇEZ0ms]Gx(ɊF ͛a?e)(Co!WqdD~~hR:L˳Ƚ8ZT-0=aS/R-)FZS/o0c.Pz#9_`(3(Y[xTDFiG0Qh]e'^F|vFdgFҜg3:7GTМĸ61wWvh%2v*mέ(f2ϹO&Hnd]K+-Ӷ]_ql wha[? >oNm°Xfy'0C/K)%X&g&E,axqV-Ws^6w>:?P;RJx5Σ5!'lAoūU?.~SӫË+VCGu3GCaE;5-cM¼D|Q_u>.XiìJ*yot IF~]Hs1mD1Ϊ'Ǖ4*y-:NCSQp&b0HA)z$(O_61ѵĚʝ;.d9P<`@$8ʂ $wo.S*NdY_<uαΕx&#I]8M``SYADOʦ|sk?̷6aOp0=KKbU`ͨVvL<%pMą0dOAtMApD&*QNv>HW3FM[DG2~ptpbWiϡgLq Z;'ДGdZq-˂.xw(x#G)%;;rTg]^^ɩcmv/cuDary4BX7iSwZke?BD9Xs9kw$l$ p`9,ϑE.GƊvl0XR_Q9$V5LjP`]SĽxw@Bg:ErbEip(ʑ˼Q8MP#~Y-@`aԩFpBl*2ˬ0eTj7&Bs(< E/-QHi]& 3L@;';?cZjҐӏY+?J`[y)NuigMF'J.w.;~un$Gnoϻ+@P ͧDR-z-rKOŭʃW:ƶ~-<0Փr.!Y(SMWZ[cm1`Oh:p;0δ]9ʪVgL,:Ra|J76_'`ѺӃPQt6ԑ:*u(~;.h5Jp *4ǵTr.ԾԺѐ,_1!$xdve$oMwԓ̴tG;-R,hկ.Cw*yBԬU^ɺ0l/va%FazԀ3Bĭud~jȓղ|3rC!L+AHMOϰ9U~ynΠR?BXqqjWIɄ@[Q):P*&;nҡb#xmÜV:NFRDќΊA»L4%,/[iuƸG1RfcG$)qyRӄϛGn;՟2",
  "QGǐ[_mfAĈ*w,%Ijf1yЬ|/$4FWifXR5YӮ-zAbmd<kIuJ]XR[O)?Y'K<;AbP2D`4+x|%&kԍ_V~C35ǁrIkxӊH#mI~TR7rFÇPɐ0xrĪ)n)'9G2TII`jSEin9I$h?ǮjUAxє)П:+5ϣ]XnXtr?!տTȇ? <4e͐m95ʇi9YR)74(sy@7/8 TF2.KƋ'Ɏs=[Ļ/36Ti+gmF;ɱý[ 1w-md6ƝE$J%w]8~-@VOaƩvKɀh4P9JhhMc;ԺK@&δU4hNtJMiɶʌN7Fu|BHH[9GJZV$y8=iElKO[tL@#C!X[.NP^|Tp/[ʷ|$]YAseMjyqN50);9lá=U]0m>enk^%@;U0Q7AxʎpvY<:PS<oALж(P6)gϾʇ)_z*/9I;3p`v`ow71(˽O|̃Ǫ`#-Ce!KҝE6%՛$hM_9j`BGALu=Y, k3LB9Kmӆ?eNΈ(z K˽.AIFЮ'4Ld;AG4(t*'˷hv/21s=CL)|qP'2Nd|8zՠUlQMNkX;-YOU³v0l^0U;n:T;haFŅŝW:X1_3ʞΆͷYΔ-ӟW$QxB*1#3$a:by 8Ky^#ҲMq&2~#ix΄]CQa=Ϲ`_#%onE@eTwwsW4-ƯP1#slJ@DT4>hFe5˚KW>XA14WeBmŎpD̐GɼρzX]o¹I$γ/lJ|x@%Ƚt GNle!HƝ;Żӕn*>H^B]hkƔe-Yǫ&4A?k+O6ʦUL**ce0PvF-̣RVQ7VȎ~b^@M?jvzc5qG[mœҡYXm72*1'Lr9̥%mțoM+!|[C̕Tk]Xj=ÙGJ 892*78GQA@r2RH?sEY_Qwrx5kO4ê_Qr~vϣ<8`OgR@c6ʎρYǇr5%J|lo( wc8-cԁʭɑwbՒ>%UWqh+9_rR;AAY^(;P ˲Qu˱u,nKFlKx%`0:xSAA]&@oICyI%XƼˉ,м=PSvEt|60͇AWi/=TWȞȃ7NAāh^]w (P|4+9Sȋ]>'ƨ9IBȏEƪ!H*XS[lЀk̽ӪpIePhvvvA*^n=;ͤѬ9tu:$H̬5eN~ZG^SUGr]_mķ̦dH(Ue4Qo=Я|0*YtñT^bɨqNz?uS|9=ҝŜ+L|ūb!?]Dhh·&^@ӫG9Z1wZ;զd6zfq %(^Y;4'97K;i+#nC>pAAҶoj-Zĸ/d[Rdnt;;Idk HձF~(V|@LkjԾdRw/INP>I2F4մ[H%nz>BlcF;d´pp&NtZ5paΦlItYLG,UP=^<K 0űpB!ņzqm^Si[C7)o/,KNBDXD3$̅dBAz+xwsEvq?c%$vȘ[K&Gra1b(Пxԉx˃[-y1/z4Ò!Um vOʙkkv%1Bg,p΁CŋyToMwWd?UBu$(c_lr+7̯x;L-Ui6ՠd4ENr̉;O1w",
  "rJo.89ZÚǀOy*e^C)UX.,=u~P`tw14,rÅE[GB]'#p2r?|<2̪2t^@E=>ʁ+n%LFn OlC|wӷʖ!kDT|xg:μԞ0I<mŠqtc&O5RѦQԫ8:dYg0BҚ8wu$TZ`gDrDm*pp!_%@a'wʂkXW.&4o'7X) nZ5(r4^Hh.ѡo:?qAAuOQԧ&F[BgQ_]~ѳӓͽ3#WRX[8kArЗ]wTůKH 9(T*RZq?8B`XLL[l=OY4%̋;G[V]Ñ˱#čqsf/10OͥIP;Ŭs2~!R)qzD>Mÿ;g,B7:'ZG2Fn6/RnWЪz3a8 trBIÐVѢ:COeʟ`4=snL!c/>wǣѦ͡vb*r36#-qo!L0/f5M:8x̯G=oy4j͔X;Fe˗f̞=ąƓիoSJ1EDDgwplώ`c?7$zp|Zщʕ-*YȕӛcX?TȌ%VKH#й`g0<mY+%(Aw&(9/4t H'!6wzivU(,gSŏҒ,XA`@qó7&f ,6&IǓ˒qJDkSM6zU0z&dbjǴzb8AE+BL^Vl'4:J#caf~,stG.a+m9jM>H*0JeF[?zƂJd*ɛL2K;,M]=/s930àxbʤxqAAxg1/PMqrUǙF/uGi]gh6RԒUg_jlU+$Цuo8m1/cA*`kv0cj #KS]W~̹JgD7/ql|0~a|g+F,Lw:hÒIǵ*.]KDKzM;+TZYwN[̷2;'CЌh(XUS.҇^Vo3Vh75r̘Ԧ0$»ÑÈO_v7>YNIn9kȦ Q-û/_fcBՓXTjΨA[9 Ҍh̲4z_ut!բ,&ghW̚y<8J=huՈLUFDDZ̛ zM)|ƒ29p@ Tfm˨%шet4n)d6TdF6@>X.!5QlL#FlVs/&]aj6>#,k8ɭ`EÏ4Fn:C>=!M0m:*Cɑ*wG'2Q6´ʅ˼:ƌ90SʢK&Xs4iayXΆW]~@#NhKHv7][xM7+HL`~1F~z&Fg8B,AD̘rK]9=.xcdhv`J=^nd|@y]V6z4R)#п9UKfQEe4!`&ejMsÛgѦDӡ_B(JO/F1JHդwɿo3].m-U56VW]c;LEr4,Q/$tnIŋdwz>ŧ+HZ(1iro:N+FʳBSdIĒMj0ȺLCQt8qYbuhWn^'pοX'Ư bivKx=fTQ&=DRfiԌQ3~=(0(oԼdwht@H%9ho)[]x7V0#6eAQAB0[zDUUAqB+8<Y+ZRo'>'!9.grdnlV'0aO2sx~~WL#O]œy-,J˯_|;a;!1Ό/%$ˬ̾gc#DқDd<uRuRAI.qX1vS4cgpp.A`.B_5ciAFM3 oˁǘ?XBʹk%,h?FӏnmS#|A0L%ѫW]4ib*Z-tZtfsώ:EHsihGXa^lM !ɒÿ*BɅϩXrTfQrZcWƅ4C#V=ixV``F_ǹLpk;MdBOf%Ugv˗բb",
  "9gsv< V1m$RӲC-?9 B/zg$, $,/áV=>ɧjq$3%X'Q~EQZoZu/Hbk`ÁYFȒD`g-Ɯ~<]G|2ROJƥ+6d|*9y8m7lB˱>t%σDӹоdf,MzR/έS#D1΍LCDx˦ugvQUPpMg%o~pOap=O:CWEbA?Lalt]*(pΐX҇bJPqR)MԔ&|q@J~LLT0:Qef`[C`FS_Jh]*kf,*T>I5&nM0'U>kEfPO^5rfÎǡzY+5~IM-â:rQomF-ɽ=~OI~ԏrt@?*79KuDVNҦ4;`*jA(d$(Fs @ՋC˗^5eȞ-¶A˷<ǋ1Try(ϚAyN+#|,O[HJɵ_ҸRgqzƔX2Qx,Ůp>w/yԊq!'aʢF̘.cv)h3I~Y@knK*3l-[?ſj8͢^Qs,cFη|'=8w>MahxA2dl0p46?fPqsţ6S5SP!̐$%lOyl#D˭'1my%Qa+q3ZżngQ+dzZ2Bu<emZ`B)IVѕ0^8DgόˇЕK<eȯ#rgwM=y5D՛6; P54B2G:#ƬU$~cXs!k3JO`KʁqdԒ!D.8%vp=83ZY`b4Yo!ϢpdWPƁ9wT!)l1&Vy6~I<yL:f@#cfPtʲ?Aλb&K=&4Lp)nw E9HU:=;A)EU.24WUaM7˱ &KWLȶq.>$Z3l+^o$.0/doS3g_v3B8Y0X`bepHniŹjlzıt.Gp@^zyA'ihL!Ì?#~˻*L!W1Yѣ B,%([ntV?YlLccuvJ4ѾrQ'6sHW+KĊ-Xx#%sw*5_W`eǆJA`4T;N#E-xKph%Z eēˇgˈo<.&PRμOgңVEql˗7g*KI>e#ˈAԫ`EWg!.$L9Յu[U9Ƭm@z-իƘCu2RGXD<z/BE̅>n];qz6VKv(B̲b1Neәsu?W<^NɘUz&w>J&b1LLGY~WƊ²)437#N|՟*(w,JΜ?yPAf=[&F/O?)>ː(yY`yÌiF]WC$nob[Qr#UќOSX`wҦCƅhȌ[ÖOQ)JaDqx30րm-[GBzTq˅ĖRWˌV(6%x=)'!J_b̄)ozΨqoa`sBaxWso6ZȌ3@ <*C&)m8]'Z<ʹs9<wRЁ2>:ȦZjZЋ^[RPOM>sδxDJQhdsZEwɽ џǪl@α_k0`6|[=P`xuHmb0ûf2*Py(e]̉36oCzoL1 ћХO~z]SY7UY_JXt*vrbʴ%z6H,4U/*ȳc-;q[vi#D$,ͺ6u2(@*8lEf?ϧ͟'@RkYrӈmuLkCA50)X'#n,sU,rckZ)=pDMլGL`yСk0ӧ7&<a4hHj*H(%3γKbnq_aXwZMei:o_gt%_W.GgbĹw/kSơtEirV*0qYP5U%76 loR7>G'ĕaaɕ]JI/han7,m1X6Ѝiʎy˷e!BJ,@#*ɏҽ7N3aEǑk~",
  "T;U7Rxdw39-Էeri/b(,yS)xC!v5idn|fBGb 5DHEdw?)d6v_bMAJHy)1Ո|L;eD(YaRz+ǘ ;ql]N~xD&x).]ʤ&O?%XmG~rU]8f1C|>'Гs5%ՂͼrZ˥|aWʃwft,/z6`Jw'վ0%HyaLtP-Z<Bwʰqi!L,@-+*!ʕ5-cұ:Û89dPt/J`ɍi@ӲDR+>8U3-URLx.CPqwҫԙսj3qm[(/#,|jnj,^%PM1DM&ȉP7>E>e&Nq;!ͨUZo;B3y8mMjpYmΞMt1&S SvnZ1OzZ*([FlOʭNqƄn7~BjBHIΟǇf`!ͦ.P45t|E-2Sz=Mh>S8Vc=IԒXUQb~|ǚv%r7gÚբACf%QcN- TpMxӕ͚LHnҒN8̽AUwu>Loϔ$1R@a7jȫ+GbL|55ͺk-`/0jCEGǝTVqjTb[MJտvqv6whUÒ-)Q?o2)Pf9W4(lNCP1*Tu<,@3x~8_|[/љZɉ~(LNg;cgWːP^;qŜb-7%<2[t5CòJ.)v;YypIy |a*8^o,^ɼUե7͂fu=13^O_6ROrM_=&8S:2ƩR@´Mvn7f1HlMB5YBWRTO`nT@|8&ɩ'hS`@9CB2SȺt P.,[aN9$gf4sK Ixĭ,,=<8Mu:Xw%Ŭ3bҫT6/FMUưH$*0rf_T0+P^XVaHFǜKef4>ӅP[0q'Y'GPtϝdh7fLŮPÄ~a&CP7գ%3bKs@Anž7?atƞp/Qȳԗ-PJgʍfīPtհы-sϏlpΞMx^wC?)YJ;a$Uc_ҜKk+s~>b+sD8YY*cdoT.dXj#gCоKʏ~fNӏzo62VA$tÃ͑om&X1uY'$FMg|sRΆ(#'0Ɣi[.+e/9ew`o`G<cPZ:/BWfS˄C̥c7ďD`|JS181`4&U!ZlǤ]LͪMaM~f:1a9~rŘ Bs`.ǹ̅g5ӉpAw&@:ȓHbnwg7.3n?Zԯ^ě7՟0jp'a˵yRbhVTU_#5Ī'(^ch s+[d#SĆu*2ҚR4Lɫѥ~в>XʐՀGHw96GԐacwI:_HKjȕ6AR=0%k?`GXɘvlV2q?Zi2e-2<p(WXo>Qdd.5@Kk_g)bxɅ75)Vlz<iI(Zd,!hL<znTMo`e?ĦHf-9Ϣq9e//M;<(ķhDzqԛğ̆fH҅W՜3ʬ Ԉ#a?ĬeiĦkvjnL+^PYȑǽ'5H49OU7]|F9)9=ԯ1VwȺ$BvtyTͩHkL0~a<9_2JЕLM(,bƎ'2mF 3R2[f`I%<64Y#fFcΌΒT¯8Ԧ;&hlXf̭Ce<LzTw@sF˟̞xB#iҺ'Ŋ!~4uGgŻi-H˸G̗iGlV'l#Knw(I:x;Vj~ Ovdir^5aXR<56iͫ˄ɖxɳIųblFƙfʬ`g͹/['FvRax5Yȩ]&WyTTfAjl$BYU7",
  "HUMEA>ѤfKO'a:%]*kҌ$dqI=5<w`dO?e0v%h'BaHx/%Ves 0ЙpE4~e6skut+=32uT$шX̼ -1[Řù)XԩeKE`]Eђ½=ovζ`͓+C9ʒ~kb;+ՇqUCp;6.]92N'qǸnA]rB!W7QreH+%DΉry(%HJ>KQT1Aȭ4;_V Os[t@|3рz˭n&ӛCaKD-EV?Ws5|,5ɪ>Խ[Q@D5L^42*,-<!7l'x^͕(gEӎtL,!Ä́kfcq*%̀KӢIx3R1HR3JДM$@s^ZODU:RբǜǧDɚ'vHQрN7KYbQY]yϔS-j*u1Ǿ'TJU4kt,,os%Yu'cyMeIfB9FeEf~MΙ%e(2XXpH!<v7D>=*b^kALfqn[#~m8`Jp+D-j@-ʊ[5W@@S->$[m/9çP@k@Զiĸwl%%<JιRоhC2-D[]s/<tXҊ&BN qU<;sStE!dzZ(ˠAW2ʱ-r[DVKw'A]XD)-q2j%HQv(qʊǨľ6^6)1[b5CC1̋jtyhkPԪi;,qGaO4]brsiQX'·ZRG4v|P;r-%? tNpgJ@@r^Ey4K/̾-5 DmaV[uqUY?ҳ!b)1fcT6'%QmDEeJ9Xo:͟ez4ʣepeP~/RDNДa̷TǄc#]rMlFTdȣ6Ҷ#g*'ɐv06jG.ŨģGx-CHȣQεh:LbBՙQ:r[rWfЙ$,+!ÿcW~V|Al^vfxSs8VJ?fѿt3:7B_WoʘL.>PYԖKs3#!BGǖ|s_s6dG^@#A|.0ŗw%OyHq-NȜ 'vɨ'1dhӗKrZȭthoy>X!lnPp/j7xNHO6VCuN,KĶ83-~xp8ͭNBqxu.v;S΋pԀo9T]n3S5Vk5w1ņk[$aK_.L(0i:&1;tFՒX]ǰÀi=R`#LBCj!&iLOkҌEo/)N8cwI3eG@ϋxHpWD,geFcYſ#@ɧoҌUԔ.:A%,8lyyxocҨlxcy45ŰTdl8БY[EbKWƾ?zMDPLH6̃)&|jln4̩FH_XHF8hKlYO+æ)Z[̪ʹ*iӳ(dtB:9S-%Opm(xx`8iL+tϦ=@%˭-x%Ω+(sT#K_4AK>lJҷP<&4%ѐш^lqΔrgs,TIu7b.r/DBN@fDRyg5eYqIͧ3=A`hbu Mdg!iulÖ,#<MBf1?Ti8_XB+5;N#QD6+OCBF=t&K=fБ3K_Efoc3A=QCș?$U( i_bA(DW`x5Z;pOf$)_sTMZ0~X,jНL,C^43AJnPKĆ<,xM'Ƃxə&cSPjƑӨhCf/ƞL`չ@#ЛEI3<2.bP5X!8qǧ[|;;r;Ŕ,iOtO*˼ɤa<tΠɣ΀9U?A^. ƎV#J|gKF9w@opsqǷszy1Dvfʐv|Ggs՚!L(rÀHy%,t;[4H?j9?PFFZMб.$,QQVSq=rE",
  "ՈO<8^ O%c8ds+rAcȧapE^˙+.TLKtiť(xH%L=èMlKϨ/ǲa<Ôf6z,fIq'ovmӞ,@7շC~-9ŌkQ5x;A&)1 tJGQaHãMӺU)Y1gC(%ҟ y~*9ɽIud>./+YϩR$Х1=^̬h>p*˴soWC6.ԎyZZffľuF0p_Br<~]Z#$4OSh̖A<'<@quy4Z&7ȑ?14<ё*Xўk!48NLb NVŗ/`@:#z_aWp$d+k]bΓbV 1ƹf<8pӦĈӗ'`oϭF@nG[MQ'Cn;*hV< o(ԜhqJO*a/==kуdh95 q?̖26s@S'tSiOe+%^8u:t,95С;~cOzbϚRŽS]n73Uiʪ$.DO=m8zf*-^U0%Д@aL3ѲO)S2ʖ9 OВW?FSviZ98`K'kB&4!ƥ.kcbt4;X̋¼kIO2u]cpIj5'CK)yD0<Օ06_675QſBȬyjRTy0hŉB8nL1,8ӆdKϖc*A4Nzlʻ;zn@7u͍wo3GU[5/щ˕yqӬf@D$ck4MB%fl=<ʾ#:O9џ4)Nnά~oTN>J<o0ϵ8bs*uILjęǼuK;-7Uǎiv#ke7n!:Y)9LK+?p|>V[̊Iwk,ЂGy=-ͬibe?zk(HdϪ[8!p_>f.!gvS/1fg1I=V1UCԂTNIyv^:ñ&0S|ZEoa8fzS[ar.S7dEHs-&аZHUlCXǯԜT(!7%N.n8+<F!X;ftPZDќ~$ҹ'^P)͟L<*c1TC!бd~ou!Մqj:~(ll/WA[6$?Q%NsWPµ2g|P6΅Ral~Dȴ[_pta?0*FKWOnJ=<τ[;U9WWS$ėqZ9!#/UϢ?[tUk:>fGxseZ˸^?!5%ՊG5̓*$(Kv ͦ/ВX:*#=6+>zJƬ7KϾ9zvaW3u<O>-N)dK!ǁyg@T-RZMl~ЉYó?_iU?iǝӂL`Α9bAc#N47zbDw.LqԨ-Oq8rXmղ_Ƌ]+@m3U:ϴÁO(2ĀO$5x8ʫ+&gxR-)'kFkt'lc^=Es|NiKC[ӕw&Epex~nEo4FKP+x7.Zs[]vg_hIӓW>G.w3`րH:,5*XgϫGHb Ȼ˔BT2OV<). yh7Ugz$=Q$P$tqǗwsD#eFUEvcɚ̥*Uϟvz̺PDb3fԵY҃<TZ%ҙ_wz/Vt)͗|%!#I(_ob(NQpNyO4ppHp3+w!:<Àsrsh<B+fFӭm$Xn1_mK̅$'^~gP~`GM@ RF)l;,_|ḇ3Ԉ5&I RȗQeGM::eS=DnUq@L1DB%ȁ=Ǟk,,QbTμj=-4NөԦ,'xaFzu|ѾTИXg2ū'(]c͸j!M;N7XD|dS5,ςKIe64NNJń8m6_+XHy_G0g+o%8`8WŕjI+m[Tϯ̽EEҫs̎L[Sò7EfKmƪj8vV͌1|iI`lU94KX%L%?W,#Gj.|H+",
  "mPsGPKɰ gTXƹh[bn2ïāTj4 )bm`ЌYoRƢMSh-:OH2U@N͇7tżf+MGyĩN@lUZ &ɤ/Ls+)gvƸp̭Y ̅5LC'yV!_Z&s,s)AmwtNYbMWwuzu_XiCi,<<a@)s,Ōɑ(?~f(EOKŭGbaʓF.;f&n8wJ3Y~ Tl8:BȮWTдmGU@ʽT^WEϗH_ZY]h]ӍOEwlpD._GgQnG^[rӜMɩdW0p*,-<˻O#>OnvT50E8bp2Řm̕_FILsst-7FH=եqDn@8jeRʗ]8XӼY*v7V[hЫ;m<qZsήi-j`Zmk!%.l9=RN1ɛ4.;j&Usw˂1-#yM1RE'D]|~N_sUό[6t4bk_61r[ıtS(KympV?H3cWwwPӎ'=иOhE# i5OɰQAՙz_1CyK/G[ ^:En5eia/W7dOXobD&Nhӟǐ%|ԫ2uqǞONVfgikqId7N0rtYz;Πű͐)Bԡ/Uȏ̝qCM(@'A)zpE&>'j͖,PhyQuyWяB/K44MY5OjW`<`hY̸*CUū TlՇ389&3IfrĎҪbqqV72%,GeC3o>pЙ]9Rem>#/2;)UʇLvBĔ0E,hlr`Ho83(FA%gCgL?`8h?Y(',4rDMO]d<C`Dí1XYn8#T>CNyorNB>B0_iҰ$zt`HXu|ʏa%]Н|ZVNJ+i*Q'#Qafs+F~x_1~S?Y^V:ȧȟb;!@j7[Xfb4µTOcBAƉ*|bix&yҗ:'j>#yԾLȶ ![uk/0[YV-4Kah*O2s> g</ʔY^eýJ_hjCf*ekΣIԿJÝx6)&PtvAsuԢE6rQy!W?-c@Z&yr@&>x&8OӋ`GЌ2+upSzVe3R`(rdJN+A +GEV?1qi3+Y^I+pMdylx/UY**(իˈŻ  ]@њFZv!Bf&u*̡NBVz+tлzpIzY8ӫMpTH3KZ7GhZ`?b0&O0,N-~GI7-Ӟo+;6`)tgra0y0lp+ҷe%ЍԄP3Zk[B~CjԍQN>_6ULerbU)1՟r[5EŋU7o2nyC3]1caQAϷ(3sTd>ŴUhӠDb07vXT&N72db̛Nx_Q:aC;bw!91kҼ2p>K+HPT!|kS#2~!G`lS6!ϥՠefU+s|`2dŏ+Zөxϛj՘ƺuIH6N,<ΆLmYkySƼ+8Q),#a/V;v*cZ<!e76oIcXА*Q=;'B˘+qJSh[8z?m&R03:&LQii[XɘBå4/Ȋl*JRe4Rwm|Pu&%QdZJ><Ϳ/qonZG@c.@ !x[J|eԏˌ]e-=ʄJrK7/8Kzȕrh)vzKnDPO$Ԁkm1M7 $VsOZ>CO!ͣl.B;*Xj7(fdQG3ULC+ՀS45m*uEUU_(%˄w<ͪ'^2L6Sʆ>ѥ[@AYX.N^LcsxcNw3MjGrPŬQEFVm",
  "ǹFKXC-elƤcʴX]E~oH_]AxMʺ7qKNdtXwJMC9NŽZ:CHgVÿ>UViƝxİKH;ЧoȤmtźKRnv˜J+΢C#~Ο%,AR'ǔmP-q˟@~O1>nSMmS22qu<Lvx(RR0BӿTJh`m>Ԙ/U7ll1@,Z?JGUhh(~ywrrazET=^irȩOJjGU-XAkaBw>@F wJIKr4PkԱckAն# ]շ32+k.n7+^gi8GbVtZ53>~H@av.W%,w]@+X,^'dǿ=)_w^čxEF8~rw^S& yRy-D2Ď>.ʐG?inEPv3L!65G(ś͐n/d0Fv6XɊ!PlV;`'PYd7,.N|'cWpL)̥W[mѢvK!4,#je,bKҟZH'ck$g~4FF_xfYN#[xO(Fcɶ0PwМz3ϑu7#%(Όīp8c3j/go4yǘ9H)iVdǗ:XMtuY'+:eIy^b9,fC]:^DH/)^.;'OLej%#pc^I_6|]Ȉ%?|O*ě2oc'@b;̓|?k$+ͼAgӧjy=o_,zX4|G#vq.+-h^%cvJ*f œe1XP̈́ogUdD>sr5ȋ=;E]%|0ˁYԥknT]oonGhux3ĭƉ.[c ,tjnQoѥ2X5c-kZagO҇,BoE*8>$8l(Ɂog2^r4fqsw#we/хzN*[i[ӏʕ`l*ɧ%Mĵ˰=~ĔG;N7yNn;Py8V_oï<q.:GӳѢ4ӟF9VNTWT*F<mm&Z̳|ыgib:^H_Q^Q_rGNc)!HOfЗ=Ż/mC1/G?[4ϳES#DQ>mTK[g?#m&ғΛɰBHǉԐ3ȋ._Xis]zGd9a[=%~C^0'ș8vkK[pT&j[Ts@YL?ĦRkx3p`/QХ+vUğnwѾӻsBҠGnU'[0^k8)+|h.=|y~PkiEՏH˳:F@zwVͶ[&K;,>)ƹEAA$yCkY:uRFiG5RP*3ywUonŬEè>Eb)>Z,,.πr:wKBZPwH:'6Wm1VTvT.;X]=qFTƋpt,-#Ɖwb05]siX`>+BCβNQru8_*GǙ#f^F=bww?ox/g:9POS°?BFEu !]J=*)F4lQ14ѝh12P,%їMP*&=[w>IҼmхG0KR7;,kX~UI@2]˶xU='åXs^DE/KVpN Ӂ=ҺxĹmSDZfWVr]ĴpLtϺk̈˰ʍHV._>e/Sjţ81h,-O4Fb]* i!<Пq-Z#UqZw;8:RGf=sɷ҆[gVU:?hV@ 8`SY?6*гnω)Kx`ԇP/HŬis^~w|g00|W'ǔ˚2C_v,+%4Ǖ6̡9FY<I2`16FXq8j7~ʏeZJ5^y9r/OlUUXT/SrlK0ē<IЋ+@vKMocƳ3YX:>#wƚZ!nȚmϢmMOMkn+31 U/˞XrO.YhV|qpu;+Mӿz>~#h3:Gp'tbg(f Ő7#IyPX8ϘSbZ)DGO&K;cKUt|RptY՚<",
  "jDemJ6w՜BŰ=a+di]k]ȉf!+g2*29[n#Qiq!nïzg27͝%Tԥ?eT;ǤQ&WCB**h.&yD<%GzW3xis^jIǰ/ZPAPXRR.͟$S.TrX/F$ptJ/ϨKkɌ1N#,Ax9[eeM75O[4͛GEL;pqIB)RC)Ϳ~5(ˣ9f1@vʘKՠPN$RʭG&6x1Ƽ JǦGЉn@7-`4ȼ?(Ɩ͔$_fo$c`fopqW˕=B+IWAɤhiG0ARӧwTDb47K#w>T)HQ,tLLSҏә@dBhy(3NRwhǻө3Pr<.C3K)alfAby$[bǞi<?mTY``:rςӀ2fҍhEmmCCx>qsÐ^J)Ƶ.'6|ҹ9[CƗDx)-@mGrDfxΠbn( !p.?Vw`gюA'/Ո9+n˃eqvnRv=ėp&5Aho~DOc%$;YN]Lqcc2%Nár0Gҽ7]IA~]E-ɨGl&*)JVxvTk&>)KcfɭӀOÖz`)/*[E՜b&p8_`0Ͼ|ԳjTѽSoRn?dr$s1$̨F4G[4;ag[rknm?1Đ?U(Ww!'?MOAdv<nNK#]~˅R.2(lm-Z8niRdW85d<$4J$M6i+)SuukЅG99fGzDjRZ5nLŭ4b)@y8~~]1[XǪԯ n8QշOƑրǱsVjC75WXHt xHO%>4UyXF3ʏTϪѿBoy!zR@-КM&wKBagDza#TEϻlF1Y<&$0.eW?yl?%6É)-HUYdb'<Omˉ.?B*̔ZG[a:'W0*h~MWĢ6ZHk;3<բ%_?EpҲHCYtVɁEH6̤g:DH#V.C,Lu FњМB|/9aYON F$T[yGc8tHOD#Q[7́bo8a)!Nм+;ca8K9y.cT&u1v46ѫmRmkČCvx`BȮg5xp/iX7ytmv̉OƐXҟ^`ɢJv3ˢqpƮ^iN.ՄJJXAWG~B@Yv^(ͱđv0-Gcé˳ɡ βiˤaØnā4*ztHgeCkDԃG#,=Jy=wrh5B̟xԿ5qmӔz:%Vb5QO Dq. VWQsf<U=tqefy*'rÑ:ʕQXF6VHk$^Q5$V!w[R1|<.=bg3-*O@'tQтǥs$B=E`wVʖ4J&͇C>tg#7,G9):L<GKb;^ԌQeHȺ˜C+xw[j+ͩ5e&ӐbVP:efSfq^Apvw4Q=X|.JW=i+03z~¾ C_^j7RRy2Gx;pԮqK<[QCmʩ5*cwԇn$3?Xr:91ta0quVLξ(A)f!c~&w#=pO'Zϵ`r_9ûa,LáWg`(G[^bՉͿuή<+VDc)-lկ~R>UBB4'v7nC(6!-&ϛ&8C@G]Lgqb?YvūAj+E,FOK`rJSh`%o,NˎTt[G4Sg;W&=baćD?Ճ< x˳dvVnpjLfҳж|8c_!W,;Jv#XxaGrX/ծ@мՁyn qЁśgrlHR&!e$d~2FeN,/Ƚ/7SD48o>b:eǞ5ʄ&;",
  "h-8^Z(&(8q#mPS6ы^Ʋ0ϕ^NKHT<ifa=<QjY7UV̩ŭDtˬxʨO57^@_˰Yɸ`]Ճ'ȨA-PWYH+c29MuZEǥ=49ʳ^))zCt0MUkFPX-5r~U:o@VYNɑn+8TR`ȇH8nvka?OXK])_|.V![c6VPG!j~t_--~aL.F:.O`5cҵ.NK[xeUԘL:зCK-5=o!zw;?s@]mi(:lveu.v4;,ȁ@54~Ţ6o҇|H4ő55.̖75P[9W0;#H&s̘8W0zs9ͣ?A9΀!LD<R:1`4qՊHѶ>yI@atv2Cѝ_Ѽ49ИKv=_LY[#Ůej5dRz4 ՞&Fv+pTFLLOuɔXxc|~V6Mc.tJ%;djʛu&vÛB0ucnCS|+37vtuΎnWsƦbc;gьP̖4УE~^ʅ.iKo=Zqeíz]WɾÅDXz:@Z!abRp%Ac1nq$hՇQ2tQ4yGGz3ǯMUf<9%~?ex4y.^<ϏcA0_;75B*sC~gcO_IqESEY1a$xcsD-F<xyn()t$Q҆48Qo~>?HMx:wB!7Y.|aǱO(?g%1gND7OA_, fǬiήˁ#Zt_CV7JZԇR>oG1f88.NOqNվx1<?ʵ'u_bϢ u16π*Rv(%ojϕ@k3ЅτKa_*0_|l<R2)6+rOŮʼadP6mʊFzu2QABe6~/SMz`]>SEO~y!R~I^j:aP<uT]|Zǅ,SзFnbTţĐp/&7YBϥHB Vxr22nBg`9bpGe=et>((NZ,*̘e-O>8=Y!1gdqǤvhk˨xE,~llBXR3;gѠbtHg>>Ċ_D:~7˚=UJ!L> ũ0#4_˴WgmY66>t&l`yժǑ,7Q#(y+Ԫuxa|qkrЌk_7s͘BKln Sxy=OKǽ(a2U.XN)ɂ)J9=H1gKu6ˡ9MgVg2%msY)̦?7hѱKATTӛLzX!.=F24(IklSIOv0S9>ryd2O0s7;#PŉKV`%EFXqŋ#7mȺCBN.st3ol,docƲr^)y`V+a4rz>Wi5q~KaKjGO;s;k_~,WŒq><0eb73Ƞ|ȇb(%T~Ι_((k$vBm8-~ȇm83_xG7#e>P*:Ĥ1лjȗYZjI>#ʲZG8*W9>͊* Ӆ+S;CWpe&doa͜5Ep͗ 5?J6_PtdsφlXwSWf_61W#%eb!OŨ.*M0KQIA&HSḍ+[$x1@1O*X%O7;@w0N'|vP8I5zau~@aFq@:IO%A%S%fxHsphp>*`PIѼjԉ΂xf_(Џaq/PB3rZͪk;ð<dJ5).[.syLƝbI2bsXsz([Ǎ[cp30(ʤѼKaKuYoCGQL:[toe(lKǃ5:>St9HM+ԃ<̙uN^#ʆ`$$cW V^Gmz.=g!xɤB[$FYUsy0aϊ¼]uJVǵtBuE2ah7'~8nP6L|uJdKWT*Пa",
  "]ύ%ÑVU]3mllɣX)c$@yohYbKQ(F>A$7kȏu@uMs^Էg<?Ϙ6~]AJSҤFw<fϑH4#hn5EK~E˴nG@<g)K|4uM4ɗ+e(#K0|8~'1z0̤#de>0ѬyBfqzv;j'hJj6fF%:YE_ME`Q[lVoB1Ê@G1,/?b9PfFӛ*rP03@_PY3jѷ(f|3zTFp2*Y~<D;V.w,́9Rͼ#/<rHBǹeW0!ՋTF[:mI>.~#pXWˋm#i#~5 [^L..fm$C%q'Ęʔ[(`V@cL0,TcnxU kҙR28ç!wZ)hVOi'U˳ǀ[dSndTX(|*F3 Zǐ$Tlg[ABFZ9~+M>AxS;g6^ xHWt)G6@ȁ&#ϕ/1V3Y=*-Q#Mvh3XrR@ɀeʑ/GWt/^]1^[oT9x'sX$/)3.SgK,h>#94jDPÊR-υIl_g7r)K3A:2X/vKe`I(<[A8Kki.$Apl͑~Ţ4'V(f'qqH1_&SVOgiǘ^kb:ECQDf˯]7@QRszɿKwS4][DQ*+1[H*5f0Л˂umWμPQJ&Etyza_7+=mΠi T446_L<>āWukO917Z!D?dF`(́~5W0ȍnL6[ nHl$K9ovHzu2g#iPԚ;U/>W1ѣ^#`):9K#mqUwet̩L7hǧMXEXAI8ePɀ9C2mR;zJvMVc!=]AcZb3,zDx~E̷ͻWk+%h/fȕv.?TO |CG6V'IETɫ^y6,m%*(x3M[RAѱa[ywtmaєmpԼǑTNj_p!Y@ɷP_z55ҖyoSͬ(<0[[vԮeȢ,-m<]ŖӪYdÜ<c#ovsX#'YDV1D[Vy*S^I:#p9ɦi!2ԣeXn<o'x=Dj@<ːб-KDp3Ub,R l`CBͿ[!iXx82j)]hf-c 9Q7ս(iZ4wŎcոMwVMyT>@[u]V-P9ĹbK!z*ɒo~R%sulRĈŽӝYI#~>V/HUѴllE@aN0tBvDvǈM2*x ip8*@́IADeV;u)]aN528v9RA8UPZbQylzϒ10ZDkx!|c^ɔ%-w<@J`CV$!3^^S?zчs˅pOx3Xpt^HYeb=/+oЂd,c_Pr.eqi%R:ŜY&crdØbY1 aIgoq'.sT;;z[3=Fǭ;C^ED7FÁГa74<<j*9gOT=2:j)=3QY-b@<ljp0uƪ?FIL4T/|Vht#b=е՘z*Gl'r& /Y8ŢMhka-Ivʞe(OjʥQLrAűr@:c8;Qοii07j<l&QΜVi-|P _!͌^բ68z]qa_?q@'Ds k2töjLc?4F50W^;J*B]WK+|WMs!8mSIYl]5kqӝ1T$>HqO|:4nvmnNT>NIo:UzWR,/,Xz̕ˢ.oS#TӀѺAvYZ˨Sb9<;dI,VTzVpjsԱ1/s?Q>KJ!Ђ8QC>3&kţ_Z'9[",
  "*^JJL]c3b*FMei[D̸"]

end TriStore.Text.Grid
